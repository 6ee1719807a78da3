import BandCanvas.Geometry.Point
import BandCanvas.Picture.Blend

namespace BandCanvas

/-- An edge that is not level, from its upper to its lower end. `winding` is `1` if the outline runs
down along it. -/
structure Edge where
  upper : Point
  lower : Point
  winding : Int

structure Crossing where
  x : Float
  winding : Int
  unknown : Bool

namespace Edge

def between? (p q : Point) : Option Edge :=
  if p.y == q.y then none
  else if p.y < q.y then some ⟨p, q, 1⟩
  else some ⟨q, p, -1⟩

def ofOutline (points : List Point) : List Edge :=
  match points with
  | [] => []
  | p :: ps => (points.zip (ps ++ [p])).filterMap fun (p, q) => between? p q

/-- Where the edge crosses the line at height `y`. Its upper end belongs to it, the lower one does
not. -/
def crossing? (y : Float) (e : Edge) : Option Crossing :=
  if y < e.upper.y || y ≥ e.lower.y then none
  else
    let t := (y - e.upper.y) / (e.lower.y - e.upper.y)
    some ⟨e.upper.x + t * (e.lower.x - e.upper.x), e.winding, e.upper.unknown || e.lower.unknown⟩

end Edge

namespace Crossing

/-- The order along a line. Of the places that are not numbers, the unknown ones come last and those
that came from infinities first. -/
def le (c d : Crossing) : Bool :=
  if c.x.isNaN && !c.unknown then true
  else if d.x.isNaN && !d.unknown then false
  else Binary64.totalLE c.x d.x

/-- The first column whose centre is not before the place. -/
def column (c : Crossing) : Float :=
  Binary64.ceil (c.x - 0.5)

def runs (width : Nat) (winding : Int) : List Crossing → List (Nat × Nat)
  | c :: d :: cs =>
    let winding := winding + c.winding
    if winding = 0 then runs width winding (d :: cs)
    else
      let start := Binary64.toNat64 (Binary64.greatest c.column 0)
      let stop := Binary64.toNat64 (Binary64.least d.column width.toFloat)
      (start, stop) :: runs width winding (d :: cs)
  | _ => []

end Crossing

namespace Bitmap

def fillRow (f : Color → Color) (edges : List Edge) (y : Nat) (b : Bitmap) : Bitmap :=
  let crossings := (edges.filterMap (Edge.crossing? (y.toFloat + 0.5))).mergeSort Crossing.le
  (Crossing.runs b.width 0 crossings).foldl (fun b (x, stop) => b.modifyRun (fun _ => f) y x stop) b

/-- Paints the pixels whose centres the outlines, taken together, wind around. -/
def fillOutlines (f : Color → Color) (outlines : List (List Point)) (b : Bitmap) : Bitmap :=
  let edges := outlines.flatMap Edge.ofOutline
  let top := (edges.map fun e => Binary64.least e.upper.y e.lower.y).foldl Binary64.least
    Binary64.infinity
  let bottom := (edges.map fun e => Binary64.greatest e.upper.y e.lower.y).foldl Binary64.greatest
    (-Binary64.infinity)
  let start := Binary64.toNat64 (Binary64.greatest (Binary64.floor top) 0)
  let stop := Binary64.toNat64 (Binary64.least (Binary64.ceil bottom) b.height.toFloat)
  b.forRows (fillRow f edges) start stop

end Bitmap

end BandCanvas
