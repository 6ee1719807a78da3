import BandCanvas.Color
import BandCanvas.Picture.Png.Header

namespace BandCanvas.Png

structure Frame where
  width : Nat
  height : Nat

structure Content where
  header : Header
  palette : Option (List UInt8)
  transparency : Option (List UInt8)
  remarks : List String
  frame : Frame
  next : Option Nat

namespace Content

def ofHeader (h : Header) : Content :=
  ⟨h, none, none, [], ⟨h.width, h.height⟩, none⟩

def remark? (c : Content) (kind : String) (wellFormed : Bool) : Option Content :=
  if wellFormed && !c.remarks.contains kind then some { c with remarks := kind :: c.remarks } else none

/-- Takes the hidden color, or the alphas of the palette. Of samples of two bytes the lower one counts. -/
def hide? (c : Content) (data : List UInt8) : Option Content :=
  if c.transparency.isSome then none
  else do
    let hidden ← match c.header.layout with
      | .gray => [1].mapM (data[·]?)
      | .rgb => [1, 3, 5].mapM (data[·]?)
      | .palette => c.palette.map fun p => if data.length ≤ p.length / 3 then data else []
      | .grayAlpha | .rgba => none
    some { c with transparency := some hidden }

def frame? (c : Content) (data : List UInt8) : Option Content :=
  let field (i : Nat) : Nat := ofBigEndian ((data.drop i).take 4)
  let number := field 0
  let f : Frame := ⟨field 4, field 8⟩
  let fits := 0 < f.width && 0 < f.height && field 12 + f.width ≤ c.header.width &&
    field 16 + f.height ≤ c.header.height
  let ways := data[24]?.any (· ≤ 2) && data[25]?.any (· ≤ 1)
  if fits && ways && number = c.next.getD 0 then some { c with frame := f, next := some (number + 1) }
  else none

def take? (c : Content) (k : Chunk) : Option Content :=
  if k.data.isEmpty then some c
  else
    match k.kind with
    | "IHDR" => none
    | "PLTE" => if c.palette.isSome then none else some { c with palette := some k.data }
    | "tRNS" => c.hide? k.data
    | "fcTL" => c.frame? k.data
    | "acTL" => if 8 ≤ k.data.length then some c else none
    | "gAMA" => c.remark? k.kind (4 ≤ k.data.length)
    | "cHRM" => c.remark? k.kind (32 ≤ k.data.length)
    | "sRGB" => c.remark? k.kind (k.data[0]?.any (· ≤ 3))
    | "pHYs" => c.remark? k.kind (k.data[8]?.any (· ≤ 1))
    | _ => some c

/-- The compressed pixels in the chunks of one kind that follow each other, up to the head of another chunk. -/
def pixels? : (fuel : Nat) → Option Nat → List UInt8 → Option (List UInt8)
  | 0, _, _ => none
  | fuel + 1, number, bytes => do
    let (k, rest) ← Chunk.ofBytes? bytes
    let data ← match number with
      | none => some k.data
      | some n =>
        if 4 ≤ k.data.length ∧ ofBigEndian (k.data.take 4) = n then some (k.data.drop 4) else none
    if !k.isBorne then none
    else
      let kind ← Chunk.kind? rest
      if kind = k.kind then
        let later ← pixels? fuel (number.map (· + 1)) rest
        some (data ++ later)
      else some data

def read? : (fuel : Nat) → Content → List UInt8 → Option (Content × List UInt8)
  | 0, _, _ => none
  | fuel + 1, c, bytes => do
    match ← Chunk.kind? bytes with
    | "IDAT" =>
      let compressed ← pixels? (fuel + 1) none bytes
      some (c, compressed)
    | "fdAT" =>
      let number ← c.next
      let compressed ← pixels? (fuel + 1) (some number) bytes
      some (c, compressed)
    | "IEND" => none
    | _ =>
      let (k, rest) ← Chunk.ofBytes? bytes
      let c ← c.take? k
      if k.isBorne then read? fuel c rest else none

def hasAlpha (c : Content) : Bool :=
  c.transparency.isSome || c.header.layout = .grayAlpha || c.header.layout = .rgba

/-- The number of bytes that a pixel takes with its alpha, and with the color of its palette entry. -/
def pixelBytes (c : Content) : Nat :=
  let colors := if c.header.layout = .gray ∨ c.header.layout = .grayAlpha then 1 else 3
  if c.hasAlpha then colors + 1 else colors

def entries (c : Content) : Array Color :=
  let alphas := c.transparency.getD []
  let color : List UInt8 → Nat → List Color
    | [r, g, b], i => [⟨r, g, b, (alphas[i]?).getD 255⟩]
    | _, _ => []
  let p := c.palette.getD []
  ((List.range (p.length / 3)).flatMap fun i => color ((p.drop (3 * i)).take 3) i).toArray

end Content

end BandCanvas.Png
