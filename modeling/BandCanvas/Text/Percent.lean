import BandCanvas.Text.Hex

namespace BandCanvas.Percent

/-- Writes the characters that `reserved` holds of, and all that are not printable ASCII, as bytes. -/
def encode (reserved : Char → Bool) (s : List Char) : List Char :=
  s.flatMap fun c =>
    if c.toNat < 0x20 || 0x7f ≤ c.toNat || reserved c then
      (String.singleton c).toUTF8.toList.flatMap fun b => '%' :: Hex.ofByte b
    else [c]

def bytes : List Char → List UInt8
  | '%' :: a :: b :: rest =>
    match Hex.bytes? [a, b] with
    | some [n] => n :: bytes rest
    | _ => '%'.toNat.toUInt8 :: bytes (a :: b :: rest)
  | c :: rest => (String.singleton c).toUTF8.toList ++ bytes rest
  | [] => []

def decode? (s : List Char) : Option (List Char) :=
  (String.fromUTF8? (bytes s).toByteArray).map String.toList

end BandCanvas.Percent
