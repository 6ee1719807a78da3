import BandCanvas.Number.Rounding

namespace BandCanvas

structure Rect (α : Type) where
  x : α
  y : α
  width : α
  height : α
  deriving DecidableEq

abbrev DeviceRect := Rect Float

structure CssRect where
  left : Float
  top : Float
  width : Float
  height : Float
  deriving DecidableEq

namespace CssRect

/-- `ratio` device pixels make one style sheet pixel. -/
def ofDevice (ratio : Float) (r : DeviceRect) : CssRect :=
  ⟨r.x / ratio, r.y / ratio, r.width / ratio, r.height / ratio⟩

def midpoint (r : CssRect) : Float × Float :=
  (r.left + r.width / 2, r.top + r.height / 2)

def contains (r : CssRect) (x y : Float) : Bool :=
  x ≥ r.left && x ≤ r.left + r.width && y ≥ r.top && y ≤ r.top + r.height

end CssRect

/-- The part of the canvas that the host shows, in style sheet pixels. -/
structure Viewport where
  left : Float
  top : Float
  right : Float
  bottom : Float
  deriving DecidableEq

namespace Viewport

/-- The scroll that brings `r` inside the view. Of a rectangle wider than the view the left edge is
kept visible. -/
def scrollTo (v : Viewport) (r : CssRect) : Float × Float :=
  let toRight :=
    if r.width > v.right - v.left then 0
    else Binary64.greatest (r.left + r.width - v.right) 0
  let toLeft := Binary64.least (r.left - v.left) 0
  let toTop := Binary64.least (r.top - v.top) 0
  let toBottom := Binary64.greatest (r.top + r.height - v.bottom) 0
  (toLeft + toRight, toTop + toBottom)

end Viewport

end BandCanvas
