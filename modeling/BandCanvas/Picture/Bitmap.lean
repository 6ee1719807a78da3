import BandCanvas.Color

namespace BandCanvas

structure Bitmap where
  width : Nat
  height : Nat
  pixels : Array Color
  size_pixels : pixels.size = width * height
  deriving DecidableEq

namespace Bitmap

def filled (width height : Nat) (c : Color) : Bitmap :=
  ⟨width, height, Array.replicate (width * height) c, by simp⟩

def blank (width height : Nat) : Bitmap :=
  filled width height Color.clear

def ofPixels (width height : Nat) (pixels : Array Color) : Bitmap :=
  ⟨width, height, Array.ofFn fun i : Fin (width * height) => pixels.getD i Color.clear, by simp⟩

instance : Inhabited Bitmap :=
  ⟨blank 0 0⟩

def isEmpty (b : Bitmap) : Bool :=
  b.width = 0 || b.height = 0

def get? (b : Bitmap) (x y : Nat) : Option Color :=
  if x < b.width ∧ y < b.height then b.pixels[y * b.width + x]? else none

def modify (f : Color → Color) (x y : Nat) (b : Bitmap) : Bitmap :=
  if x < b.width ∧ y < b.height then
    { b with pixels := b.pixels.modify (y * b.width + x) f, size_pixels := by simp [b.size_pixels] }
  else b

def row (b : Bitmap) (y : Nat) : List Color :=
  (b.pixels.extract (y * b.width) ((y + 1) * b.width)).toList

end Bitmap

end BandCanvas
