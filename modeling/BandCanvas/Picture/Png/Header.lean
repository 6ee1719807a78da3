import BandCanvas.Picture.Png.Chunk

namespace BandCanvas.Png

inductive Layout where
  | gray | rgb | palette | grayAlpha | rgba
  deriving DecidableEq

namespace Layout

def ofCode? : Nat → Option Layout
  | 0 => some gray
  | 2 => some rgb
  | 3 => some palette
  | 4 => some grayAlpha
  | 6 => some rgba
  | _ => none

def channels : Layout → Nat
  | gray | palette => 1
  | grayAlpha => 2
  | rgb => 3
  | rgba => 4

end Layout

structure Header where
  width : Nat
  height : Nat
  layout : Layout
  interlaced : Bool

namespace Header

def ofData? (data : List UInt8) : Option Header :=
  match data.drop 8 with
  | depth :: layout :: compression :: filter :: interlace :: _ => do
    let width := ofBigEndian (data.take 4)
    let height := ofBigEndian ((data.drop 4).take 4)
    let layout ← Layout.ofCode? layout.toNat
    if depth = 8 ∧ compression = 0 ∧ filter = 0 ∧ interlace ≤ 1 ∧ 0 < width ∧ 0 < height then
      some ⟨width, height, layout, interlace = 1⟩
    else none
  | _ => none

/-- The header and the bytes behind it. Headers without data are skipped. -/
def first? : (fuel : Nat) → List UInt8 → Option (Header × List UInt8)
  | 0, _ => none
  | fuel + 1, bytes => do
    let (c, rest) ← Chunk.ofBytes? bytes
    if c.kind ≠ "IHDR" ∨ !c.intact then none
    else if c.data.isEmpty then first? fuel rest
    else
      let h ← ofData? c.data
      some (h, rest)

end Header

end BandCanvas.Png
