import BandCanvas.Document.Replay

namespace BandCanvas

/-- How a live stream stands: the style, and whether the present band is painted. -/
structure LivePass where
  paint : PaintState
  painting : Bool
  deriving DecidableEq

namespace LivePass

def initial : LivePass :=
  ⟨PaintState.initial, true⟩

end LivePass

namespace Document

/-- Takes up a band whose commands start at a place of the stream, and clears the rows it is painted
on. -/
def defineBand (source : String) (position : Nat) (b : BandHeader) (d : Document) : Outcome :=
  let band : Band :=
    { id := b.id, kind := b.kind, editable := b.editable, height := b.height, x := b.x, y := b.y,
      source, offset := position }
  { document := { d with bands := d.bands.upsert band }
    effects := if b.paint then [.call (.clearRect ⟨0, b.y, d.canvasWidth, b.height⟩)] else [] }

def dropBands (d : Document) : Outcome :=
  d.hideMenu.update fun d => { d with bands := BandStore.empty, pending := none }

def attachEditor (host : WidgetHost) (json : String) (d : Document) : Outcome :=
  let (error, step) := d.overlay.attach host d.ratio json
  let o := d.withOverlay step
  { o with effects := o.effects ++ Effect.ofEvent? (error.map fun e => .bindingError e.message) }

/-- Puts the overlay into its box. The rest of the stream belongs to it. -/
def prepareEditor (source : String) (position : Nat) (box : DeviceRect) (d : Document) : Outcome :=
  ((d.withOverlay (d.overlay.prepare d.ratio box)).andThen
      fun d => d.updateMenu (box.y + box.height / 2)).update
    fun d => { d with pending := some ⟨source, position⟩ }

def edit (host : WidgetHost) (d : Document) : EditorCommand → Outcome
  | .attach json => d.attachEditor host json
  | .configure mode => d.withOverlay (d.overlay.configure mode)
  | .start field => (d.withOverlay (d.overlay.start d.ratio field)).andThen (adjustScroll host)
  | .update content => d.withOverlay (d.overlay.update content)
  | .finish => (d.withOverlay d.overlay.finish).update fun d => { d with pending := none }
  | .hint box text => d.withOverlay (d.overlay.hint host (CssRect.ofDevice d.ratio box) text)
  | .prepare _ | .debugBox _ | .other _ => d.quiet

def drawLive (p : LivePass) (command : Command) (d : Document) : Outcome × Option LivePass :=
  let (paint, images, effects) := Paint.draw ⟨d.ratio, p.painting⟩ p.paint d.images command
  (⟨{ d with images }, effects⟩, some { p with paint })

/-- Runs a command of a live stream, which goes on at `position`. Nothing is left of a pass that the
command ends. -/
def perform (host : WidgetHost) (source : String) (position : Nat) (p : LivePass) (d : Document) :
    Command → Outcome × Option LivePass
  | .reset true =>
    ((Outcome.mk d (Effect.calls d.clearPage)).andThen dropBands, some p)
  | .reset false =>
    ((Outcome.mk d (Effect.calls PaintState.initial.styleCalls)).andThen dropBands,
      some { p with paint := PaintState.initial })
  | .band b => (d.defineBand source position b, some { p with painting := b.paint })
  | .update => (if d.bands.isEmpty then d.quiet else d.repaint, none)
  | .grid major minor => ({ d with gridMajor := major, gridMinor := minor }.quiet, some p)
  | .page number count =>
    let (event, paging) := d.paging.setChapterPage number count
    (⟨{ d with paging }, Effect.ofEvent? event⟩, some p)
  | .editor (.prepare box) => (d.prepareEditor source position box, none)
  | .editor (.debugBox r) => d.drawLive p (.editor (.debugBox r))
  | .editor e => (d.edit host e, some p)
  | command => d.drawLive p command

/-- Runs a live stream from a place on. Malformed commands are passed over. -/
def liveFrom (host : WidgetHost) (source : String) (c : Cursor) (p : LivePass) (d : Document) :
    Outcome :=
  match _h : c.step with
  | none => d.quiet
  | some (.error _, next) => liveFrom host source next p d
  | some (.ok command, next) =>
    match d.perform host source next.offset p command with
    | (o, none) => o
    | (o, some p) => o.andThen (liveFrom host source next p)
termination_by c.rest.length
decreasing_by all_goals exact Cursor.step_length_lt ‹_›

/-- Runs a live stream, which starts with the initial style. -/
def live (host : WidgetHost) (f : Fragment) (d : Document) : Outcome :=
  (Outcome.mk d (Effect.calls PaintState.initial.styleCalls)).andThen
    (liveFrom host f.source f.cursor LivePass.initial)

end Document

end BandCanvas
