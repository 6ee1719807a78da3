import BandCanvas.Command.Basic
import BandCanvas.Paint.State

namespace BandCanvas

/-- What a pass fixes for its commands: the device pixels of a style sheet pixel, and whether anything
is painted. -/
structure PaintEnv where
  ratio : Float
  painting : Bool
  deriving DecidableEq

namespace Paint

/-- The length of a Bézier handle that makes a quarter of a circle. -/
def kappa : Float := 0.5522848

def isOddWidth (w : Float) : Bool :=
  Binary64.toInt64 (Binary64.round w) % 2 != 0

/-- A line. One of an odd width along an axis is moved onto the centre of its pixels. -/
def line (env : PaintEnv) (s : PaintState) (x1 y1 x2 y2 : Float) : List CanvasCall :=
  let axisAligned := x1 == x2 || y1 == y2
  let shift := if axisAligned && env.ratio == 1 && isOddWidth s.lineWidth then -0.5 else 0
  [.beginPath, .moveTo (x1 + shift) (y1 + shift), .lineTo (x2 + shift) (y2 + shift), .stroke]

def finishPath (mode : PaintMode) : List CanvasCall :=
  (if mode.fills then [.fill] else []) ++ (if mode.strokes then [.stroke] else [])

def rectangle : RectAction → DeviceRect → List CanvasCall
  | .clear, r => [.clearRect r]
  | .paint .stroke, r => [.strokeRect r]
  | .paint .fill, r => [.fillRect r]
  | .paint .both, r => [.beginPath, .rect r, .fill, .stroke]

def roundRect (radius : Float) (r : DeviceRect) : List CanvasCall :=
  let right := r.x + r.width
  let bottom := r.y + r.height
  [.beginPath, .moveTo (r.x + radius) r.y,
    .arcTo right r.y right (r.y + radius) radius,
    .arcTo right bottom (right - radius) bottom radius,
    .arcTo r.x bottom r.x (bottom - radius) radius,
    .arcTo r.x r.y (r.x + radius) r.y radius,
    .closePath]

def ellipse (r : DeviceRect) : List CanvasCall :=
  let handleX := r.width / 2 * kappa
  let handleY := r.height / 2 * kappa
  let right := r.x + r.width
  let bottom := r.y + r.height
  let midX := r.x + r.width / 2
  let midY := r.y + r.height / 2
  [.beginPath, .moveTo r.x midY,
    .bezierTo r.x (midY - handleY) (midX - handleX) r.y midX r.y,
    .bezierTo (midX + handleX) r.y right (midY - handleY) right midY,
    .bezierTo right (midY + handleY) (midX + handleX) bottom midX bottom,
    .bezierTo (midX - handleX) bottom r.x (midY + handleY) r.x midY]

def text (mode : PaintMode) (x y : Float) (content : String) (maxWidth : Option Float) :
    List CanvasCall :=
  (if mode.fills then [.fillText content x y maxWidth] else []) ++
    (if mode.strokes then [.strokeText content x y maxWidth] else [])

/-- Hairlines follow the ratio, so that they stay one device pixel wide. -/
def effectiveWidth (env : PaintEnv) (w : Float) : Float :=
  if w ≤ 1 then env.ratio else w

def whenPainting (env : PaintEnv) (calls : List CanvasCall) : List CanvasCall :=
  if env.painting then calls else []

/-- The fill colour is set where a command fills. -/
def fillFirst (mode : PaintMode) (s : PaintState) : List CanvasCall :=
  if mode.fills then [.fillColor s.fill] else []

/-- Runs a drawing or style command. Commands of the document, the editor and images are none. -/
def execute (env : PaintEnv) (s : PaintState) : Command → Option (PaintState × List CanvasCall)
  | .line x1 y1 x2 y2 => some (s, whenPainting env (line env s x1 y1 x2 y2))
  | .rect .clear r => some (s, whenPainting env (rectangle .clear r))
  | .rect (.paint mode) r =>
    some (s, fillFirst mode s ++ whenPainting env (rectangle (.paint mode) r))
  | .roundRect mode radius r =>
    some (s, whenPainting env (roundRect radius r) ++ fillFirst mode s ++
      whenPainting env (finishPath mode))
  | .ellipse mode r =>
    some (s, whenPainting env (ellipse r) ++ fillFirst mode s ++ whenPainting env (finishPath mode))
  | .text mode x y content maxWidth =>
    some (s, (if mode.fills then [.fillColor s.text] else []) ++
      whenPainting env (text mode x y content maxWidth) ++ [.fillColor s.fill])
  | .fillColor c => some ({ s with fill := c }, [])
  | .textColor c => some ({ s with text := c }, [])
  | .strokeColor c => some ({ s with stroke := c }, [.strokeColor c])
  | .lineWidth w =>
    let w := effectiveWidth env w
    some ({ s with lineWidth := w }, [.lineWidth w])
  | .fontFamily family =>
    let f := { s.font with family }
    some ({ s with font := f }, [.font f])
  | .font style size =>
    let f := { s.font with style, size }
    some ({ s with font := f }, [.font f])
  | .fontMetrics m => some ({ s with metrics := m }, [])
  | .transform dx dy angle =>
    let m := (s.transform.translate dx dy).rotate angle
    some ({ s with transform := m }, [.transform m])
  | .resetTransform =>
    some ({ s with transform := Affine.identity }, [.transform Affine.identity])
  | .legacyOrigin .. | .reserved _ | .separator | .unknown _ => some (s, [])
  | .reset _ | .band _ | .update | .image _ | .grid .. | .page .. | .editor _ => none

end Paint

end BandCanvas
