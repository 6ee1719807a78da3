import BandCanvas.Picture.Png.Content

namespace BandCanvas.Png

def byteAt (b : ByteArray) (i : Nat) : Nat :=
  (b[i]?.getD 0).toNat

/-- Whichever of left, above and upper left is nearest to left plus above minus upper left. -/
def paeth (left above corner : Nat) : Nat :=
  let p : Int := left + above - corner
  let toLeft := (p - left).natAbs
  let toAbove := (p - above).natAbs
  let toCorner := (p - corner).natAbs
  if toLeft ≤ toAbove ∧ toLeft ≤ toCorner then left
  else if toAbove ≤ toCorner then above
  else corner

/-- Undoes the filter of a row, which is written as differences from its neighbours `step` bytes to
the left and in the row above. -/
def unfilter (kind step : Nat) (above raw : ByteArray) : ByteArray :=
  (List.range raw.size).foldl
    (fun row i =>
      let left := if step ≤ i then byteAt row (i - step) else 0
      let corner := if step ≤ i then byteAt above (i - step) else 0
      let guess := match kind with
        | 1 => left
        | 2 => byteAt above i
        | 3 => (left + byteAt above i) / 2
        | 4 => paeth left (byteAt above i) corner
        | _ => 0
      row.push (UInt8.ofNat (byteAt raw i + guess)))
    ByteArray.empty

def rows? (step size : Nat) : Nat → Nat → ByteArray → ByteArray → Option (List ByteArray × Nat)
  | 0, position, _, _ => some ([], position)
  | count + 1, position, above, data =>
    if position + 1 + size ≤ data.size ∧ byteAt data position ≤ 4 then do
      let raw := data.extract (position + 1) (position + 1 + size)
      let row := unfilter (byteAt data position) step above raw
      let (rows, position) ← rows? step size count (position + 1 + size) row data
      some (row :: rows, position)
    else none

/-- The part of the pixels that one pass brings: every `dx`-th column from `x` on of every `dy`-th row
from `y` on. -/
structure Pass where
  x : Nat
  y : Nat
  dx : Nat
  dy : Nat

def passes (interlaced : Bool) : List Pass :=
  if interlaced then
    [⟨0, 0, 8, 8⟩, ⟨4, 0, 8, 8⟩, ⟨0, 4, 4, 8⟩, ⟨2, 0, 4, 4⟩, ⟨0, 2, 2, 4⟩, ⟨1, 0, 2, 2⟩, ⟨0, 1, 1, 2⟩]
  else [⟨0, 0, 1, 1⟩]

def passRows? (f : Frame) (step : Nat) (data : ByteArray) :
    List Pass → Nat → Option (List (Pass × List ByteArray))
  | [], _ => some []
  | p :: ps, position => do
    let columns := (f.width - p.x + p.dx - 1) / p.dx
    let count := (f.height - p.y + p.dy - 1) / p.dy
    if columns = 0 ∨ count = 0 then passRows? f step data ps position
    else
      let (rows, position) ← rows? step (columns * step) count position ByteArray.empty data
      let later ← passRows? f step data ps position
      some ((p, rows) :: later)

end BandCanvas.Png
