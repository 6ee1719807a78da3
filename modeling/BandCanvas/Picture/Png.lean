import BandCanvas.Picture.Bitmap
import BandCanvas.Picture.Inflate
import BandCanvas.Picture.Png.Row

namespace BandCanvas.Png

def colorAt (c : Content) (entries : Array Color) (row : ByteArray) (i : Nat) : Color :=
  let sample (k : Nat) : UInt8 := UInt8.ofNat (byteAt row (i + k))
  let alpha (key : List UInt8) : UInt8 := if c.transparency = some key then 0 else 255
  match c.header.layout with
  | .gray => ⟨sample 0, sample 0, sample 0, alpha [sample 0]⟩
  | .grayAlpha => ⟨sample 0, sample 0, sample 0, sample 1⟩
  | .rgb => ⟨sample 0, sample 1, sample 2, alpha [sample 0, sample 1, sample 2]⟩
  | .rgba => ⟨sample 0, sample 1, sample 2, sample 3⟩
  | .palette => entries.getD (byteAt row i) Color.black

def place (c : Content) (p : Pass) (row column : Nat) : Nat × Nat :=
  if c.header.interlaced then (p.x + column * p.dx, p.y + row * p.dy)
  else
    let n := row * c.frame.width + column
    (n % c.header.width, n / c.header.width)

def putPass (c : Content) (entries : Array Color) (b : Bitmap) (pass : Pass × List ByteArray) : Bitmap :=
  let step := c.header.layout.channels
  pass.2.zipIdx.foldl
    (fun b (row, k) =>
      (List.range (row.size / step)).foldl
        (fun b i =>
          let (x, y) := place c pass.1 k i
          b.modify (fun _ => colorAt c entries row (i * step)) x y) b)
    b

def mostBytes : Nat :=
  512 * 1024 * 1024

def decode? (bytes : List UInt8) : Option Bitmap := do
  if bytes.take 8 ≠ signature then none
  else
    let (h, rest) ← Header.first? bytes.length (bytes.drop 8)
    let (c, compressed) ← Content.read? bytes.length (Content.ofHeader h) rest
    if h.layout = .palette ∧ c.palette.isNone ∨ mostBytes < h.width * h.height * c.pixelBytes then none
    else
      let data ← Inflate.decompress? compressed
      let rows ← passRows? c.frame h.layout.channels data (passes h.interlaced) 0
      let background := if c.hasAlpha then Color.clear else Color.black
      some (rows.foldl (putPass c c.entries) (Bitmap.filled h.width h.height background))

def adler (bytes : List UInt8) : Nat :=
  let (a, b) := bytes.foldl
    (fun (a, b) x => let a := (a + x.toNat) % 65521; (a, (b + a) % 65521)) (1, 0)
  65536 * b + a

def plainBlocks : Nat → List UInt8 → List UInt8
  | 0, _ => []
  | fuel + 1, bytes =>
    let now := bytes.take 65535
    let later := bytes.drop 65535
    let n := now.length
    let head := [if later.isEmpty then 1 else 0, UInt8.ofNat n, UInt8.ofNat (n / 256),
      UInt8.ofNat (65535 - n), UInt8.ofNat ((65535 - n) / 256)]
    head ++ now ++ if later.isEmpty then [] else plainBlocks fuel later

/-- The file of a picture. Its data is stored without compression. -/
def encode (b : Bitmap) : List UInt8 :=
  let row (y : Nat) : List UInt8 :=
    0 :: (b.row y).flatMap fun c => [c.red, c.green, c.blue, c.alpha]
  let data := (List.range b.height).flatMap row
  let stream := [0x78, 0x01] ++ plainBlocks (data.length + 1) data ++ bigEndian (adler data)
  signature ++
    Chunk.toBytes "IHDR" (bigEndian b.width ++ bigEndian b.height ++ [8, 6, 0, 0, 0]) ++
    Chunk.toBytes "IDAT" stream ++ Chunk.toBytes "IEND" []

end BandCanvas.Png
