import BandCanvas.Text.Hex

namespace BandCanvas

structure Color where
  red : UInt8
  green : UInt8
  blue : UInt8
  alpha : UInt8
  deriving DecidableEq, Repr, Inhabited

namespace Color

def opaqueOf (red green blue : UInt8) : Color :=
  ⟨red, green, blue, 255⟩

def black : Color := opaqueOf 0 0 0
def white : Color := opaqueOf 255 255 255
def pureRed : Color := opaqueOf 255 0 0
def clear : Color := ⟨0, 0, 0, 0⟩

def ofDigits? (digits : List Char) : Option Color :=
  match Hex.bytes? digits with
  | some [r, g, b] => some (opaqueOf r g b)
  | _ => none

/-- `RRGGBB` or the short `RGB`, after an optional `#`. -/
def ofHex? (text : String) : Option Color :=
  let digits := match text.toList with
    | '#' :: rest => rest
    | all => all
  match digits with
  | [r, g, b] => ofDigits? [r, r, g, g, b, b]
  | _ => ofDigits? digits

def rgbDigits (c : Color) : List Char :=
  Hex.ofByte c.red ++ Hex.ofByte c.green ++ Hex.ofByte c.blue

/-- `#RRGGBB`; the alpha channel is not written. -/
def toHex (c : Color) : String :=
  String.ofList ('#' :: c.rgbDigits)

def toHexWithAlpha (c : Color) : String :=
  String.ofList (c.rgbDigits ++ Hex.ofByte c.alpha)

end Color

end BandCanvas
