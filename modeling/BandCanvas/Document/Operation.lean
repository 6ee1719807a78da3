import BandCanvas.Asset.Loader
import BandCanvas.Document.Live
import BandCanvas.Document.Notification

namespace BandCanvas.Document

def resizeCanvas (d : Document) : Outcome :=
  ⟨d, Effect.calls (.resize d.scale.deviceWidth d.scale.deviceHeight :: d.clearPage)⟩

def create (o : DocumentOptions) : Outcome :=
  resizeCanvas
    { scale := Scale.ofPage o.density o.pageWidth o.pageHeight o.zoom
      background := o.background
      bands := BandStore.empty
      images := ImageCache.empty
      timer := RedrawTimer.idle o.redrawDelay
      overlay := Overlay.initial o.defaultTag
      pending := none
      gridMajor := 0
      gridMinor := 0
      paging := Paging.initial
      editable := false
      rightMargin := 0
      menuBand := none
      viewport := none }

def setEditable (editable : Bool) (d : Document) : Outcome :=
  let d := { d with editable }
  if editable then d.quiet else d.hideMenu

def configurePage (width height rightMargin : Float) (d : Document) : Outcome :=
  resizeCanvas { d with rightMargin, scale := d.scale.withPage width height }

/-- Changes the zoom. Gives the new scale of the server if it is another one. -/
def setZoom (zoom : Float) (d : Document) : Option Float × Outcome :=
  let scale := d.scale.withZoom zoom
  let changed := scale.toCanvas.isFinite && scale.toCanvas != d.scale.toCanvas
  (if changed then some scale.toCanvas else none, resizeCanvas { d with scale })

def reset (d : Document) : Outcome :=
  (d.hideMenu.andThen fun d => d.withOverlay d.overlay.reset).andThen fun d =>
    let d := { d with
      bands := BandStore.empty
      images := ImageCache.empty
      pending := none
      timer := d.timer.cancel }
    ⟨d, .dropLoads :: Effect.calls d.clearPage⟩

/-- Takes a message: a stream after `D:`, or a note after `n:`. -/
def handleMessage (host : WidgetHost) (message : String) (d : Document) : Outcome :=
  match message.toList with
  | 'D' :: ':' :: _ => d.live host ⟨message, 2⟩
  | 'n' :: ':' :: json =>
    (Notification.parse? (String.ofList json)).elim d.quiet fun n => d.notify n
  | _ => d.quiet

def paint (host : WidgetHost) (commands : String) (d : Document) : Outcome :=
  d.live host ⟨commands, 0⟩

def completeLoad (l : ImageLoad) (c : ImageCache) : Bool × ImageCache :=
  c.complete l.path l.picture

def completeLoads : List ImageLoad → ImageCache → Bool × ImageCache
  | [], c => (false, c)
  | l :: ls, c =>
    let (arrived, c) := completeLoad l c
    let (more, c) := completeLoads ls c
    (arrived || more, c)

/-- Takes the loads that have finished, and repaints when the timer is due. The answer tells whether
that happened. -/
def tick (now : Nat) (loads : List ImageLoad) (d : Document) : Bool × Outcome :=
  let (arrived, images) := completeLoads loads d.images
  let timer := if arrived then d.timer.arm now else d.timer
  let (due, timer) := timer.due now
  let d := { d with images, timer }
  (due, if due then d.repaint else d.quiet)

/-- Fonts have been loaded, so that texts may have changed their size. -/
def fontsLoaded (now : Nat) (d : Document) : Outcome :=
  { d with timer := d.timer.arm now }.quiet

def pointerMoved (y : Float) (d : Document) : Outcome :=
  if !d.overlay.visible && d.scale.toDocument.isFinite && d.editable then
    d.updateMenu (d.scale.cssToDevice y)
  else d.quiet

end BandCanvas.Document
