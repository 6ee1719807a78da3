import BandCanvas.Geometry.Rect

namespace BandCanvas

inductive FitMode where
  | clip
  | fillFrame
  | retainShape
  | realHeight
  deriving DecidableEq, Repr

inductive HorizontalAnchor where
  | left | center | right
  deriving DecidableEq, Repr

inductive VerticalAnchor where
  | top | middle | bottom
  deriving DecidableEq, Repr

namespace FitMode

def ofCode (code : String) : FitMode :=
  if code = "FF" then fillFrame
  else if code = "RS" then retainShape
  else if code = "RH" then realHeight
  else clip

end FitMode

namespace HorizontalAnchor

def ofCode (code : String) : HorizontalAnchor :=
  if code = "C" then center else if code = "R" then right else left

end HorizontalAnchor

namespace VerticalAnchor

def ofCode (code : String) : VerticalAnchor :=
  if code = "M" then middle else if code = "B" then bottom else top

end VerticalAnchor

/-- The operations that fitting needs of its numbers. -/
class Scalar (α : Type) extends Add α, Sub α, Mul α, Div α where
  ofNat : Nat → α
  least : α → α → α
  le : α → α → Bool
  lt : α → α → Bool

instance : Scalar Float where
  ofNat := Nat.toFloat
  least := Binary64.least
  le x y := x ≤ y
  lt x y := x < y

/-- The box a picture is placed in, given by its edges. -/
structure Frame (α : Type) where
  top : α
  left : α
  bottom : α
  right : α
  deriving DecidableEq

/-- How a picture is placed: the frame, the fit and the sides it is anchored to. -/
structure Fitting (α : Type) where
  frame : Frame α
  mode : FitMode
  horizontal : HorizontalAnchor
  vertical : VerticalAnchor
  deriving DecidableEq

structure Placed (α : Type) where
  source : Rect α
  target : Rect α
  deriving DecidableEq

namespace Fitting

variable {α : Type} [Scalar α]

open Scalar in
/-- The drawn size of a picture `w` by `h` in a frame `maxW` by `maxH`. -/
def drawnSize (mode : FitMode) (maxW maxH w h : α) : α × α :=
  match mode with
  | .clip => (least maxW w, least maxH h)
  | .fillFrame => (maxW, maxH)
  | .retainShape =>
    let f := least (maxW / w) (maxH / h)
    (least (w * f) maxW, least (h * f) maxH)
  | .realHeight =>
    if le w maxW && le h maxH then
      let f := least (maxW / w) (maxH / h)
      (w * f, h * f)
    else if lt h w then
      let fx := maxW / w
      (w * fx, h * least (maxH / h) fx)
    else
      let fy := maxH / h
      (w * least (maxW / w) fy, h * fy)

/-- Places a picture `w` by `h`. Clipping keeps the anchored side of the picture. -/
def place (f : Fitting α) (w h : α) : Placed α :=
  let zero : α := Scalar.ofNat 0
  let two : α := Scalar.ofNat 2
  let maxW := f.frame.right - f.frame.left
  let maxH := f.frame.bottom - f.frame.top
  let (drawW, drawH) := drawnSize f.mode maxW maxH w h
  let x := match f.horizontal with
    | .left => f.frame.left
    | .center => f.frame.left + (maxW - drawW) / two
    | .right => f.frame.right - drawW
  let y := match f.vertical with
    | .top => f.frame.top
    | .middle => f.frame.top + (maxH - drawH) / two
    | .bottom => f.frame.bottom - drawH
  let sourceX := match f.horizontal with
    | .left => zero
    | .center => (w - drawW) / two
    | .right => w - drawW
  let sourceY := match f.vertical with
    | .top => zero
    | .middle => (h - drawH) / two
    | .bottom => h - drawH
  { source := if f.mode = .clip then ⟨sourceX, sourceY, drawW, drawH⟩ else ⟨zero, zero, w, h⟩
    target := ⟨x, y, drawW, drawH⟩ }

end Fitting

end BandCanvas
