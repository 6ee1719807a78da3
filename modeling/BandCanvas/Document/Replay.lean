import BandCanvas.Command.Decoder
import BandCanvas.Document.Basic
import BandCanvas.Paint.Execute

namespace BandCanvas

namespace ImageCache

/-- Draws a picture. One that is met for the first time is asked for. -/
def draw (painting : Bool) (i : ImageCommand) (c : ImageCache) : ImageCache × List Effect :=
  if i.path.isEmpty then (c, [])
  else
    match c.beginFetch i.path with
    | (true, c) => (c, [.request i.path])
    | (false, c) =>
      match c.ready? i.path with
      | some b =>
        let placed := i.fitting.place b.width.toFloat b.height.toFloat
        (c, if painting then [.call (.drawImage b placed.source placed.target)] else [])
      | none => (c, [])

end ImageCache

namespace Paint

def debugBox (r : DeviceRect) : List CanvasCall :=
  [.save, .strokeColor Color.pureRed, .strokeRect r, .restore]

/-- Runs a command that draws, or sets how things are drawn. All others do nothing. -/
def draw (env : PaintEnv) (s : PaintState) (images : ImageCache) :
    Command → PaintState × ImageCache × List Effect
  | .image i =>
    let (images, effects) := images.draw env.painting i
    (s, images, effects)
  | .editor (.debugBox r) => (s, images, Effect.calls (whenPainting env (debugBox r)))
  | command =>
    match execute env s command with
    | some (s, calls) => (s, images, Effect.calls calls)
    | none => (s, images, [])

end Paint

def Command.endsReplay : Command → Bool
  | .reset _ | .band _ | .update | .editor (.prepare _) => true
  | _ => false

namespace Fragment

def cursor (f : Fragment) : Cursor :=
  Cursor.atOffset f.source f.offset

def replayFrom (ratio : Float) (c : Cursor) (s : PaintState) (images : ImageCache) :
    ImageCache × List Effect :=
  match _h : c.step with
  | none => (images, [])
  | some (.error _, next) => replayFrom ratio next s images
  | some (.ok command, next) =>
    if command.endsReplay then (images, [])
    else
      let (s, images, effects) := Paint.draw ⟨ratio, true⟩ s images command
      let (images, rest) := replayFrom ratio next s images
      (images, effects ++ rest)
termination_by c.rest.length
decreasing_by all_goals exact Cursor.step_length_lt ‹_›

def replay (ratio : Float) (f : Fragment) (images : ImageCache) : ImageCache × List Effect :=
  let (images, effects) := replayFrom ratio f.cursor PaintState.initial images
  (images, Effect.calls PaintState.initial.styleCalls ++ effects)

def replayAll (ratio : Float) : List Fragment → ImageCache → ImageCache × List Effect
  | [], images => (images, [])
  | f :: fs, images =>
    let (images, effects) := f.replay ratio images
    let (images, rest) := replayAll ratio fs images
    (images, effects ++ rest)

end Fragment

def Band.fragment (b : Band) : Fragment :=
  ⟨b.source, b.offset⟩

namespace Document

def gridColor : Color := Color.opaqueOf 192 192 192

/-- Every `step` from `x` on below `limit`. -/
def gridPlaces (step limit : Float) : Nat → Float → List Float
  | 0, _ => []
  | fuel + 1, x => if x < limit then x :: gridPlaces step limit fuel (x + step) else []

def gridLines (d : Document) (onMajor : Bool) : List CanvasCall :=
  let chosen (x : Float) : Bool := (Binary64.remainder x d.gridMajor == 0) == onMajor
  let columns := gridPlaces d.gridMinor d.canvasWidth (d.scale.deviceWidth + 1) 0
  let rows := gridPlaces d.gridMinor d.canvasHeight (d.scale.deviceHeight + 1) 0
  [.beginPath, .strokeColor gridColor, .lineWidth (if onMajor then 0.5 else 0.15)] ++
    ((columns.filter chosen).flatMap fun x => [.moveTo x 0, .lineTo x d.canvasHeight]) ++
    ((rows.filter chosen).flatMap fun y => [.moveTo 0 y, .lineTo d.canvasWidth y]) ++ [.stroke]

/-- Lines that are less than a device pixel apart are no grid. -/
def grid (d : Document) : List CanvasCall :=
  if d.gridMajor != 0 && d.gridMinor ≥ 1 then d.gridLines false ++ d.gridLines true else []

def clearPage (d : Document) : List CanvasCall :=
  [.save, .transform Affine.identity, .fillColor d.background,
    .fillRect ⟨0, 0, d.canvasWidth, d.canvasHeight⟩] ++ d.grid ++ [.restore]

/-- Everything that is painted again: the bands in the order of their identifiers, and the overlay's
fragment on top. -/
def fragments (d : Document) : List Fragment :=
  d.bands.bands.map Band.fragment ++ d.pending.toList

def repaint (d : Document) : Outcome :=
  let (images, effects) := Fragment.replayAll d.ratio d.fragments d.images
  { document := { d with images, timer := d.timer.cancel }
    effects := Effect.calls (.save :: d.clearPage) ++ effects ++ [.call .restore] }

end Document

end BandCanvas
