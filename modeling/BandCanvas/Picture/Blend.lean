import BandCanvas.Picture.Bitmap

namespace BandCanvas

namespace Color

/-- A channel of a translucent color over another one, whose part is cut down by the upper one. -/
def blendChannel (alpha below total : Nat) (upper lower : UInt8) : UInt8 :=
  let value := (upper.toNat * alpha + lower.toNat * below * (255 - alpha) / 255) / total
  UInt8.ofNat (min value 255)

/-- The color that shows where `upper` is painted over `lower`. -/
def blendOver (upper lower : Color) : Color :=
  if upper.alpha = 0 then lower
  else if upper.alpha = 255 then upper
  else
    let alpha := upper.alpha.toNat
    let below := lower.alpha.toNat
    let total := alpha + below * (255 - alpha) / 255
    { red := blendChannel alpha below total upper.red lower.red
      green := blendChannel alpha below total upper.green lower.green
      blue := blendChannel alpha below total upper.blue lower.blue
      alpha := UInt8.ofNat (min total 255) }

end Color

namespace Bitmap

def modifyRun (f : Nat → Color → Color) (y x stop : Nat) (b : Bitmap) : Bitmap :=
  (List.range' x (stop - x)).foldl (fun b x => b.modify (f x) x y) b

def forRows (f : Nat → Bitmap → Bitmap) (y stop : Nat) (b : Bitmap) : Bitmap :=
  (List.range' y (stop - y)).foldl (fun b y => f y b) b

end Bitmap

end BandCanvas
