namespace BandCanvas.Png

def signature : List UInt8 :=
  [0x89, 0x50, 0x4e, 0x47, 0x0d, 0x0a, 0x1a, 0x0a]

def crcByte (crc : UInt32) (b : UInt8) : UInt32 :=
  (List.range 8).foldl
    (fun c _ => if c &&& 1 = 1 then (c >>> 1) ^^^ 0xedb88320 else c >>> 1) (crc ^^^ b.toUInt32)

def crc (bytes : List UInt8) : UInt32 :=
  bytes.foldl crcByte 0xffffffff ^^^ 0xffffffff

def ofBigEndian (bytes : List UInt8) : Nat :=
  bytes.foldl (fun n b => 256 * n + b.toNat) 0

def bigEndian (n : Nat) : List UInt8 :=
  [24, 16, 8, 0].map fun shift => UInt8.ofNat (n >>> shift)

structure Chunk where
  kind : String
  data : List UInt8
  intact : Bool

namespace Chunk

/-- Whether a reader may do without the chunk, as the letter case of its kind tells. -/
def isOptional (c : Chunk) : Bool :=
  c.kind.toList.head?.any fun x => x.toNat.testBit 5

/-- Damage is only borne in chunks that a reader may do without. -/
def isBorne (c : Chunk) : Bool :=
  c.intact || c.isOptional

def kindOfBytes (bytes : List UInt8) : String :=
  String.ofList (bytes.map fun b => Char.ofNat b.toNat)

def kind? (bytes : List UInt8) : Option String :=
  let head := bytes.take 8
  if head.length = 8 then some (kindOfBytes (head.drop 4)) else none

def ofBytes? (bytes : List UInt8) : Option (Chunk × List UInt8) :=
  let size := ofBigEndian (bytes.take 4)
  let body := (bytes.drop 4).take (size + 4)
  let rest := bytes.drop (size + 8)
  let checksum := rest.take 4
  if body.length = size + 4 ∧ checksum.length = 4 then
    some (⟨kindOfBytes (body.take 4), body.drop 4, ofBigEndian checksum = (crc body).toNat⟩, rest.drop 4)
  else none

def toBytes (kind : String) (data : List UInt8) : List UInt8 :=
  let body := kind.toList.map (fun c => UInt8.ofNat c.toNat) ++ data
  bigEndian data.length ++ body ++ bigEndian (crc body).toNat

end Chunk

end BandCanvas.Png
