import BandCanvas.Geometry.Affine
import BandCanvas.Geometry.Rect

namespace BandCanvas

/-- A point of the plane. `unknown` tells that it was made of a number that was NaN to begin with. -/
structure Point where
  x : Float
  y : Float
  unknown : Bool
  deriving DecidableEq

namespace Point

def ofXY (x y : Float) : Point :=
  ⟨x, y, x.isNaN || y.isNaN⟩

def isFinite (p : Point) : Bool :=
  p.x.isFinite && p.y.isFinite

end Point

namespace Affine

def hasNaN (m : Affine) : Bool :=
  m.a.isNaN || m.b.isNaN || m.c.isNaN || m.d.isNaN || m.e.isNaN || m.f.isNaN

def applyPoint (m : Affine) (p : Point) : Point :=
  let (x, y) := m.apply p.x p.y
  ⟨x, y, p.unknown || m.hasNaN⟩

end Affine

namespace Rect

def hasNaN (r : DeviceRect) : Bool :=
  r.x.isNaN || r.y.isNaN || r.width.isNaN || r.height.isNaN

def corners (r : DeviceRect) : List Point :=
  let right := r.x + r.width
  let bottom := r.y + r.height
  [(r.x, r.y), (right, r.y), (right, bottom), (r.x, bottom)].map fun (x, y) => ⟨x, y, hasNaN r⟩

end Rect

end BandCanvas
