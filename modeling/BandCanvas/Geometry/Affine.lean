namespace BandCanvas

structure Affine where
  a : Float
  b : Float
  c : Float
  d : Float
  e : Float
  f : Float
  deriving DecidableEq

namespace Affine

def identity : Affine :=
  ⟨1, 0, 0, 1, 0, 0⟩

/-- The map that applies `n` first and `m` after it. -/
def multiply (m n : Affine) : Affine where
  a := m.a * n.a + m.c * n.b
  b := m.b * n.a + m.d * n.b
  c := m.a * n.c + m.c * n.d
  d := m.b * n.c + m.d * n.d
  e := m.a * n.e + m.c * n.f + m.e
  f := m.b * n.e + m.d * n.f + m.f

def translate (m : Affine) (dx dy : Float) : Affine :=
  m.multiply ⟨1, 0, 0, 1, dx, dy⟩

def rotate (m : Affine) (radians : Float) : Affine :=
  let s := radians.sin
  let c := radians.cos
  m.multiply ⟨c, s, -s, c, 0, 0⟩

def apply (m : Affine) (x y : Float) : Float × Float :=
  (m.a * x + m.c * y + m.e, m.b * x + m.d * y + m.f)

def determinant (m : Affine) : Float :=
  m.a * m.d - m.b * m.c

/-- There is no inverse where the determinant is within the spacing of numbers at one of zero. -/
def invert? (m : Affine) : Option Affine :=
  let det := m.determinant
  if det.abs < 2.220446049250313e-16 then none
  else some
    { a := m.d / det
      b := -m.b / det
      c := -m.c / det
      d := m.a / det
      e := (m.c * m.f - m.d * m.e) / det
      f := (m.b * m.e - m.a * m.f) / det }

def isIdentity (m : Affine) : Bool :=
  m.a == 1 && m.b == 0 && m.c == 0 && m.d == 1 && m.e == 0 && m.f == 0

end Affine

end BandCanvas
