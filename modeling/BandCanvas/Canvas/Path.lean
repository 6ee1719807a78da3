import BandCanvas.Geometry.Point
import BandCanvas.Number.Hypotenuse

namespace BandCanvas

/-- A connected part of a path, with its points from the last one to the first. -/
structure Subpath where
  points : List Point
  closed : Bool

/-- The parts of a path from the last one to the first. The two places are not transformed. -/
structure Path where
  subpaths : List Subpath
  cursor : Option Point
  start : Option Point

namespace Path

def empty : Path :=
  ⟨[], none, none⟩

def moveTo (m : Affine) (p : Point) (path : Path) : Path :=
  ⟨⟨[m.applyPoint p], false⟩ :: path.subpaths, some p, some p⟩

def push (m : Affine) (p : Point) (path : Path) : Path :=
  let subpaths := match path.subpaths with
    | ⟨ps, false⟩ :: rest => ⟨m.applyPoint p :: ps, false⟩ :: rest
    | all => ⟨[m.applyPoint p], false⟩ :: all
  { path with subpaths, cursor := some p }

def lineTo (m : Affine) (p : Point) (path : Path) : Path :=
  if path.cursor.isNone then path.moveTo m p else path.push m p

def close (path : Path) : Path :=
  let subpaths := match path.subpaths with
    | s :: rest => { s with closed := true } :: rest
    | [] => []
  { path with subpaths, cursor := path.start.or path.cursor }

def rect (m : Affine) (r : DeviceRect) (path : Path) : Path :=
  match r.corners with
  | p :: ps => (ps.foldl (fun path p => path.lineTo m p) (path.moveTo m p)).close
  | [] => path

def curveSteps : Nat := 16

/-- Adds the points of a curve, which is given by its points at `1 / n, 2 / n, …, n / n`. -/
def curve (m : Affine) (point : Float → Float → Point) (path : Path) : Path :=
  (List.range' 1 curveSteps).foldl
    (fun path step => path.push m (point step.toFloat curveSteps.toFloat)) path

def bezierTo (m : Affine) (c1 c2 stop : Point) (path : Path) : Path :=
  match path.cursor with
  | none => path.moveTo m stop
  | some p =>
    path.curve m fun step steps =>
      let t := step / steps
      let s := 1 - t
      let a := s * s * s
      let b := 3 * s * s * t
      let c := 3 * s * t * t
      let d := t * t * t
      { x := a * p.x + b * c1.x + c * c2.x + d * stop.x
        y := a * p.y + b * c1.y + c * c2.y + d * stop.y
        unknown := p.unknown || c1.unknown || c2.unknown || stop.unknown }

def pi : Float := 3.141592653589793
def twoPi : Float := 6.283185307179586

/-- The arc of a circle that touches the lines to and from `p`, or the line to `p` where there is no such
circle. -/
def arcTo (m : Affine) (p q : Point) (radius : Float) (path : Path) : Path :=
  match path.cursor with
  | none => path.moveTo m p
  | some o =>
    let unknown := o.unknown || p.unknown || q.unknown || radius.isNaN
    let backX := o.x - p.x
    let backY := o.y - p.y
    let onX := q.x - p.x
    let onY := q.y - p.y
    let back := Binary64.hypot backX backY
    let on := Binary64.hypot onX onY
    if radius ≤ 0 || back == 0 || on == 0 then path.lineTo m p
    else
      let u1x := backX / back
      let u1y := backY / back
      let u2x := onX / on
      let u2y := onY / on
      let angle := (Binary64.clamp (-1) 1 (u1x * u2x + u1y * u2y)).acos
      if angle.abs < 1e-9 || (pi - angle).abs < 1e-9 then path.lineTo m p
      else
        let tangent := radius / (angle / 2).tan
        let t1x := p.x + u1x * tangent
        let t1y := p.y + u1y * tangent
        let t2x := p.x + u2x * tangent
        let t2y := p.y + u2y * tangent
        let bx := u1x + u2x
        let bisector := Binary64.hypot bx (u1y + u2y)
        let distance := radius / (angle / 2).sin
        let centerX := p.x + bx / bisector * distance
        let centerY := p.y + (u1y + u2y) / bisector * distance
        let first := Float.atan2 (t1y - centerY) (t1x - centerX)
        let last := Float.atan2 (t2y - centerY) (t2x - centerX)
        let turn := last - first
        let sweep := if turn > pi then turn - twoPi else if turn < -pi then turn + twoPi else turn
        (path.lineTo m ⟨t1x, t1y, unknown⟩).curve m fun step steps =>
          let a := first + sweep * step / steps
          ⟨centerX + radius * a.cos, centerY + radius * a.sin, unknown⟩

/-- The outlines that have an inside, in the order they were drawn. -/
def outlines (path : Path) : List (List Point) :=
  (path.subpaths.reverse.filter fun s => s.points.length > 2).map fun s => s.points.reverse

end Path

end BandCanvas
