import BandCanvas.Canvas.Polygon
import BandCanvas.Number.Hypotenuse

namespace BandCanvas

/-- The place of a pixel, which may lie off the bitmap. -/
structure Pixel where
  x : Int
  y : Int
  deriving DecidableEq, Repr

namespace Pixel

def ofPoint (p : Point) : Pixel :=
  ⟨Binary64.toInt32 (Binary64.floor p.x), Binary64.toInt32 (Binary64.floor p.y)⟩

/-- A walk towards `stop`, at most `fuel` steps long. The distance `dy` is negated, and `err` steers towards the
ideal line. -/
def walk (stop : Pixel) (dx dy sx sy : Int) : Nat → Int → Pixel → List Pixel
  | 0, _, p => [p]
  | fuel + 1, err, p =>
    if p = stop then [p]
    else
      let stepX := 2 * err ≥ dy
      let stepY := 2 * err ≤ dx
      let next : Pixel := ⟨if stepX then p.x + sx else p.x, if stepY then p.y + sy else p.y⟩
      let err := err + (if stepX then dy else 0) + (if stepY then dx else 0)
      p :: walk stop dx dy sx sy fuel err next

def line (p q : Pixel) : List Pixel :=
  let dx := (q.x - p.x).natAbs
  let dy := (q.y - p.y).natAbs
  walk q dx (-dy) (if p.x < q.x then 1 else -1) (if p.y < q.y then 1 else -1) (dx + dy) (dx - dy) p

end Pixel

namespace Bitmap

/-- Changes a pixel that may lie off the bitmap. -/
def modifyPixel (f : Color → Color) (p : Pixel) (b : Bitmap) : Bitmap :=
  match p.x, p.y with
  | .ofNat x, .ofNat y => b.modify f x y
  | _, _ => b

end Bitmap

structure Brush where
  width : Nat

namespace Brush

def radius (b : Brush) : Nat :=
  (b.width - 1) / 2

def covers (b : Brush) (center p : Pixel) : Bool :=
  let dx := p.x - center.x
  let dy := p.y - center.y
  dx * dx + dy * dy ≤ b.radius * b.radius

def stamp (brush : Brush) (color : Color) (center : Pixel) (b : Bitmap) : Bitmap :=
  let r : Int := brush.radius
  let stopX := (min (center.x + r + 1) b.width).toNat
  let stopY := (min (center.y + r + 1) b.height).toNat
  let cover (y x : Nat) (c : Color) : Color :=
    if brush.covers center ⟨x, y⟩ then color.blendOver c else c
  b.forRows (fun y b => b.modifyRun (cover y) y (center.x - r).toNat stopX) (center.y - r).toNat stopY

end Brush

structure Segment where
  start : Point
  stop : Point

namespace Segment

/-- Cuts down the stretch from `t0` to `t1` of a line, which at `t` is `gap - t * approach` inside a side. -/
def clipSide (approach gap : Float) : Option (Float × Float) → Option (Float × Float)
  | none => none
  | some (t0, t1) =>
    if approach == 0 then if gap < 0 then none else some (t0, t1)
    else
      let r := gap / approach
      if approach < 0 then if r > t1 then none else some (Binary64.greatest t0 r, t1)
      else if r < t0 then none else some (t0, Binary64.least t1 r)

/-- The part of a segment inside a box. A segment that is not finite has none. -/
def clip? (s : Segment) (minX minY maxX maxY : Float) : Option Segment :=
  let a := s.start
  let b := s.stop
  let dx := b.x - a.x
  let dy := b.y - a.y
  if a.isFinite && b.isFinite then
    let whole := some (0, 1)
    let inLeft := clipSide (-dx) (a.x - minX) whole
    let inRight := clipSide dx (maxX - a.x) inLeft
    let inTop := clipSide (-dy) (a.y - minY) inRight
    let inBottom := clipSide dy (maxY - a.y) inTop
    inBottom.map fun (t0, t1) =>
      ⟨⟨a.x + t0 * dx, a.y + t0 * dy, false⟩, ⟨a.x + t1 * dx, a.y + t1 * dy, false⟩⟩
  else none

/-- The outline of the body of a wide segment. Its middle runs through the centres of the pixels that
the caps are stamped at. -/
def body (s : Segment) (width : Nat) : List Point :=
  let a := s.start
  let b := s.stop
  let dx := b.x - a.x
  let dy := b.y - a.y
  let length := Binary64.hypot dx dy
  if length > 0 then
    let half := width.toFloat / 2
    let nx := -dy / length * half
    let ny := dx / length * half
    [⟨a.x + 0.5 + nx, a.y + 0.5 + ny, false⟩, ⟨b.x + 0.5 + nx, b.y + 0.5 + ny, false⟩,
      ⟨b.x + 0.5 - nx, b.y + 0.5 - ny, false⟩, ⟨a.x + 0.5 - nx, a.y + 0.5 - ny, false⟩]
  else []

def paintClipped (s : Segment) (brush : Brush) (color : Color) (b : Bitmap) : Bitmap :=
  let first := Pixel.ofPoint s.start
  let last := Pixel.ofPoint s.stop
  if brush.radius = 0 then
    (Pixel.line first last).foldl (fun b p => b.modifyPixel color.blendOver p) b
  else
    brush.stamp color last (brush.stamp color first (b.fillOutlines color.blendOver [s.body brush.width]))

/-- The part of a segment that comes close enough to a bitmap for the brush to reach it. -/
def clipped? (s : Segment) (brush : Brush) (width height : Nat) : Option Segment :=
  let margin := brush.radius.toFloat + 2
  s.clip? (-margin) (-margin) (width.toFloat + margin) (height.toFloat + margin)

def paint (s : Segment) (brush : Brush) (color : Color) (b : Bitmap) : Bitmap :=
  match s.clipped? brush b.width b.height with
  | some s => s.paintClipped brush color b
  | none => b

/-- The segments of a line through points, with the closing one if `closed` holds and there are more
than two points. -/
def ofPoints (closed : Bool) : List Point → List Segment
  | [] => []
  | p :: ps =>
    let points := p :: ps
    let back := if closed && points.length > 2 then [p] else []
    (points.zip (ps ++ back)).map fun (p, q) => ⟨p, q⟩

end Segment

end BandCanvas
