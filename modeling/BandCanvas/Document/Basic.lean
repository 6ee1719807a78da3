import BandCanvas.Asset.Cache
import BandCanvas.Band.Store
import BandCanvas.Canvas.Call
import BandCanvas.Document.Overlay
import BandCanvas.Document.Paging
import BandCanvas.RedrawTimer
import BandCanvas.Scale

namespace BandCanvas

structure DocumentOptions where
  pageWidth : Float
  pageHeight : Float
  background : Color
  zoom : Float
  density : Density
  redrawDelay : Nat
  defaultTag : String
  deriving DecidableEq

namespace DocumentOptions

def standard : DocumentOptions :=
  ⟨595, 842, Color.white, 1, Density.standard, 300, "text-widget"⟩

end DocumentOptions

/-- The part of a stream from a byte offset on. -/
structure Fragment where
  source : String
  offset : Nat
  deriving DecidableEq, Repr

structure Document where
  scale : Scale
  background : Color
  bands : BandStore
  images : ImageCache
  timer : RedrawTimer
  overlay : Overlay
  pending : Option Fragment
  gridMajor : Float
  gridMinor : Float
  paging : Paging
  editable : Bool
  rightMargin : Float
  menuBand : Option Int
  viewport : Option Viewport

/-- What a document has to say to its canvas, its host, its widgets and the loader of its pictures. -/
inductive Effect where
  | call (call : CanvasCall)
  | event (event : DocumentEvent)
  | widget (tag : String) (action : WidgetAction)
  | request (path : String)
  | dropLoads

namespace Effect

def calls (cs : List CanvasCall) : List Effect :=
  cs.map call

def widgets (as : List (String × WidgetAction)) : List Effect :=
  as.map fun (tag, a) => widget tag a

def ofEvent? (e : Option DocumentEvent) : List Effect :=
  (e.map event).toList

end Effect

/-- The document after an operation, and what was said during it. -/
structure Outcome where
  document : Document
  effects : List Effect

namespace Outcome

def andThen (o : Outcome) (f : Document → Outcome) : Outcome :=
  let next := f o.document
  ⟨next.document, o.effects ++ next.effects⟩

def update (o : Outcome) (f : Document → Document) : Outcome :=
  { o with document := f o.document }

end Outcome

namespace Document

def quiet (d : Document) : Outcome :=
  ⟨d, []⟩

def ratio (d : Document) : Float :=
  d.scale.ratio

def canvasWidth (d : Document) : Float :=
  d.scale.deviceWidth.toFloat

def canvasHeight (d : Document) : Float :=
  d.scale.deviceHeight.toFloat

def hideMenu (d : Document) : Outcome :=
  match d.menuBand with
  | some _ => ⟨{ d with menuBand := none }, [.event .menuHidden]⟩
  | none => d.quiet

def detailKind : String := "DT"

def buttonSize : Float := 24

/-- The place of the menu of a band: at the right margin, half way down the band. -/
def menuPlace (d : Document) (b : Band) : Float × Float :=
  let x := (d.scale.pageWidth - d.rightMargin) * d.scale.toCanvas
  let y := b.y + b.height / 2 - buttonSize * d.ratio / 2
  (x / d.ratio, y / d.ratio)

def menuTarget? (d : Document) (y : Float) : Option Band :=
  (d.bands.findAtY? y).filter fun b => b.kind == detailKind && b.editable

/-- Brings the menu to the band at a height in device pixels. -/
def updateMenu (d : Document) (y : Float) : Outcome :=
  if d.editable then
    match d.menuTarget? y with
    | none => d.hideMenu
    | some b =>
      if d.menuBand = some b.id then d.quiet
      else
        let (x, y) := d.menuPlace b
        ⟨{ d with menuBand := some b.id }, [.event (.menuShown b.id x y)]⟩
  else d.hideMenu

/-- Scrolls to the bound widget where the host has told what it shows. -/
def adjustScroll (host : WidgetHost) (d : Document) : Outcome :=
  match d.viewport, d.overlay.bounds? host with
  | some view, some bounds =>
    let (dx, dy) := view.scrollTo bounds
    if dx != 0 || dy != 0 then ⟨d, [.event (.scrollBy dx dy)]⟩ else d.quiet
  | _, _ => d.quiet

def withOverlay (d : Document) (step : OverlayStep) : Outcome :=
  ⟨{ d with overlay := step.1 }, Effect.widgets step.2⟩

end Document

end BandCanvas
