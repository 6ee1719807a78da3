import BandCanvas.Asset.Store
import BandCanvas.Canvas.Raster
import BandCanvas.Document.Operation
import BandCanvas.Recording.Arguments
import BandCanvas.Recording.Basic
import BandCanvas.Settings
import BandCanvas.Text.FileName

namespace BandCanvas

inductive PlayError where
  | arguments (error : ArgumentError)
  | settings (path : String)
  | assets (error : AddressError)
  | unreadable (path : String)
  | unwritable (path : String)
  deriving DecidableEq, Repr

namespace PlayError

def message : PlayError → String
  | arguments e => e.message
  | settings path => s!"cannot understand {path}"
  | assets e => e.message
  | unreadable path => s!"cannot read {path}"
  | unwritable path => s!"cannot write {path}"

end PlayError

structure Player where
  document : Document
  canvas : Raster
  assets : Option AssetBase
  loader : ImageLoader

namespace Player

def noWidgets : WidgetHost where
  create _ := none
  attach _ _ := .ok ()
  bounds _ _ := none

/-- Carries out what the document says. Without a place for pictures nothing is loaded. -/
def perform (p : Player) : Effect → Player
  | .call c => { p with canvas := p.canvas.apply c }
  | .request path => if p.assets.isSome then { p with loader := p.loader.request path } else p
  | .dropLoads => { p with loader := p.loader.reset }
  | .event _ | .widget _ _ => p

def take (p : Player) (o : Outcome) : Player :=
  o.effects.foldl perform { p with document := o.document }

def create (options : DocumentOptions) (assets : Option AssetBase) : Player :=
  let o := Document.create options
  take ⟨o.document, Raster.ofSize 1 1 options.background, assets, ImageLoader.initial⟩ o

def outcome (message : String) (d : Document) : Outcome :=
  if message.startsWith "D:" || message.startsWith "n:" then d.handleMessage noWidgets message
  else d.paint noWidgets message

def hear (p : Player) (message : String) : Player :=
  p.take (outcome message p.document)

def play (p : Player) (messages : List String) : Player :=
  messages.foldl hear p

def wantedFiles (p : Player) : List String :=
  p.loader.queue.filterMap fun job => do
    let url ← ((← p.assets).resolve job.path).toOption
    url.filePath?

def finish (fileBytes : String → Option (List UInt8)) (p : Player) : Player :=
  let fetch := fun path => p.assets.bind fun base => base.fetch fileBytes path
  let (loads, loader) := (p.loader.settle fetch).poll
  let p := { p with loader }.take (p.document.tick 0 loads).2
  p.take p.document.repaint

def start (a : Arguments) (settings : Option String) : Except PlayError Player := do
  let s ← (Settings.load? settings).elim (.error (.settings a.settings)) .ok
  let s := { s with zoom := a.zoom.getD s.zoom }
  let assets ← match s.assetsUrl with
    | none => pure none
    | some url => ((AssetBase.ofText (some url)).map some).mapError .assets
  pure (create (s.options (a.ratio.getD 1)) assets)

/-- Plays a whole recording. `stream` is nothing for a file that cannot be read. -/
def ofRecording (a : Arguments) (settings stream : Option String) : Except PlayError Player := do
  let p ← start a settings
  let text ← stream.elim (.error (.unreadable a.stream)) .ok
  pure (p.play (Recording.messages text))

/-- The picture left on the canvas, if it has pixels and its file has a name that can be written. -/
def picture (a : Arguments) (fileBytes : String → Option (List UInt8)) (p : Player) :
    Except PlayError Bitmap :=
  let b := (p.finish fileBytes).canvas.pixels
  if FileName.isPng a.output && !b.isEmpty then .ok b else .error (.unwritable a.output)

end Player

end BandCanvas
