namespace BandCanvas.Inflate

abbrev Bits := List Bool

def bitsOfByte (b : UInt8) : Bits :=
  (List.range 8).map b.toNat.testBit

def number? : Nat → Bits → Option (Nat × Bits)
  | 0, bs => some (0, bs)
  | _ + 1, [] => none
  | n + 1, b :: bs => do
    let (high, rest) ← number? n bs
    some (b.toNat + 2 * high, rest)

/-- A prefix code in its canonical form: how many codes there are of each length, and the symbols in their
order. -/
structure Code where
  counts : List Nat
  symbols : Array Nat

namespace Code

def ofLengths (lengths : List Nat) : Code :=
  let sizes := List.range' 1 15
  let indexed := lengths.zipIdx
  { counts := sizes.map fun n => lengths.count n
    symbols := (sizes.flatMap fun n => (indexed.filter fun p => p.1 = n).map Prod.snd).toArray }

/-- What is left of the code space after the codes of each length, if they fit into it. -/
def slack? (counts : List Nat) : Option Nat :=
  counts.foldlM (fun left n => if n ≤ 2 * left then some (2 * left - n) else none) 1

def isComplete (c : Code) : Bool :=
  slack? c.counts = some 0

/-- A code for distances is complete as well, but it may also have no symbol, or a single one whose
code is one bit. -/
def suitsDistances (c : Code) : Bool :=
  c.isComplete || c.symbols.isEmpty || c.symbols.size = 1 && c.counts.head? = some 1

/-- The next symbol. `first` is the first code of the present length, and `index` its place. -/
def next? (symbols : Array Nat) : List Nat → Nat → Nat → Nat → Bits → Option (Nat × Bits)
  | n :: counts, code, first, index, b :: bs =>
    let code := code + b.toNat
    if code < first + n then symbols[index + (code - first)]?.map fun s => (s, bs)
    else next? symbols counts (2 * code) (2 * (first + n)) (index + n) bs
  | _, _, _, _, _ => none

def symbol? (c : Code) (bs : Bits) : Option (Nat × Bits) :=
  next? c.symbols c.counts 0 0 0 bs

end Code

def bases (start : Nat) : List Nat → List Nat
  | [] => []
  | n :: ns => start :: bases (start + 1 <<< n) ns

def lengthBits : List Nat :=
  [0, 0, 0, 0, 0, 0, 0, 0, 1, 1, 1, 1, 2, 2, 2, 2, 3, 3, 3, 3, 4, 4, 4, 4, 5, 5, 5, 5]

def distanceBits : List Nat :=
  [0, 0, 0, 0, 1, 1, 2, 2, 3, 3, 4, 4, 5, 5, 6, 6, 7, 7, 8, 8, 9, 9, 10, 10, 11, 11, 12, 12, 13, 13]

def lengthTable : Array (Nat × Nat) :=
  (((bases 3 lengthBits).zip lengthBits) ++ [(258, 0)]).toArray

def distanceTable : Array (Nat × Nat) :=
  ((bases 1 distanceBits).zip distanceBits).toArray

def extended? (table : Array (Nat × Nat)) (symbol : Nat) (bs : Bits) : Option (Nat × Bits) := do
  let (base, extra) ← table[symbol]?
  let (n, bs) ← number? extra bs
  some (base + n, bs)

def copy (distance : Nat) : Nat → ByteArray → ByteArray
  | 0, out => out
  | n + 1, out => copy distance n (out.push (out[out.size - distance]?.getD 0))

/-- Whether a block ends at a symbol. The two symbols that stand for no length end it as well. -/
def isEnd (symbol : Nat) : Bool :=
  symbol = 256 || 285 < symbol

def symbols? (literals distances : Code) : Nat → ByteArray → Bits → Option (ByteArray × Bits)
  | 0, _, _ => none
  | fuel + 1, out, bs => do
    let (s, bs) ← literals.symbol? bs
    if s < 256 then symbols? literals distances fuel (out.push (UInt8.ofNat s)) bs
    else if isEnd s then some (out, bs)
    else
      let (length, bs) ← extended? lengthTable (s - 257) bs
      let (d, bs) ← distances.symbol? bs
      let (distance, bs) ← extended? distanceTable d bs
      if distance ≤ out.size then symbols? literals distances fuel (copy distance length out) bs
      else none

def fixedCodes : Code × Code :=
  (Code.ofLengths (List.replicate 144 8 ++ List.replicate 112 9 ++ List.replicate 24 7 ++
    List.replicate 8 8), Code.ofLengths (List.replicate 30 5))

/-- Code lengths, some of which stand for runs: `16` repeats the last length, `17` and `18` are zeros. -/
def lengths? (code : Code) : Nat → Nat → List Nat → Bits → Option (List Nat × Bits)
  | 0, _, _, _ => none
  | fuel + 1, wanted, found, bs =>
    if found.length = wanted then some (found.reverse, bs)
    else if wanted < found.length then none
    else do
      let (s, bs) ← code.symbol? bs
      if s < 16 then lengths? code fuel wanted (s :: found) bs
      else if s = 16 then
        let last ← found.head?
        let (n, bs) ← number? 2 bs
        lengths? code fuel wanted (List.replicate (n + 3) last ++ found) bs
      else if s = 17 then
        let (n, bs) ← number? 3 bs
        lengths? code fuel wanted (List.replicate (n + 3) 0 ++ found) bs
      else
        let (n, bs) ← number? 7 bs
        lengths? code fuel wanted (List.replicate (n + 11) 0 ++ found) bs

def lengthOrder : List Nat :=
  [16, 17, 18, 0, 8, 7, 9, 6, 10, 5, 11, 4, 12, 3, 13, 2, 14, 1, 15]

def numbers? (size : Nat) : Nat → Bits → Option (List Nat × Bits)
  | 0, bs => some ([], bs)
  | n + 1, bs => do
    let (k, bs) ← number? size bs
    let (ks, bs) ← numbers? size n bs
    some (k :: ks, bs)

def codes? (bs : Bits) : Option ((Code × Code) × Bits) := do
  let (literalCount, bs) ← number? 5 bs
  let (distanceCount, bs) ← number? 5 bs
  let (lengthCount, bs) ← number? 4 bs
  if 29 < literalCount ∨ 29 < distanceCount then none
  else
    let (sent, bs) ← numbers? 3 (lengthCount + 4) bs
    let placed := lengthOrder.zip sent
    let code := Code.ofLengths ((List.range 19).map fun s => (placed.lookup s).getD 0)
    if !code.isComplete then none
    else
      let total := literalCount + 257 + (distanceCount + 1)
      let (lengths, bs) ← lengths? code (total + 1) total [] bs
      let literals := Code.ofLengths (lengths.take (literalCount + 257))
      let distances := Code.ofLengths (lengths.drop (literalCount + 257))
      if literals.isComplete && literals.symbols.contains 256 && distances.suitsDistances then
        some ((literals, distances), bs)
      else none

def aligned (bs : Bits) : Bits :=
  bs.drop (bs.length % 8)

def plain? (bs : Bits) (out : ByteArray) : Option (ByteArray × Bits) := do
  let (n, bs) ← number? 16 (aligned bs)
  let (inverted, bs) ← number? 16 bs
  if n + inverted ≠ 65535 then none
  else
    let (bytes, bs) ← numbers? 8 n bs
    some (bytes.foldl (fun out b => out.push (UInt8.ofNat b)) out, bs)

def blocks? : Nat → ByteArray → Bits → Option (ByteArray × Bits)
  | 0, _, _ => none
  | fuel + 1, out, bs => do
    let (last, bs) ← number? 1 bs
    let (kind, bs) ← number? 2 bs
    let (out, bs) ← match kind with
      | 0 => plain? bs out
      | 1 => symbols? fixedCodes.1 fixedCodes.2 (bs.length + 1) out bs
      | 2 => do
        let ((literals, distances), bs) ← codes? bs
        symbols? literals distances (bs.length + 1) out bs
      | _ => none
    if last = 1 then some (out, bs) else blocks? fuel out bs

/-- The output of a stream. Its checksum has to be there but is not compared. -/
def decompress? : List UInt8 → Option ByteArray
  | method :: flags :: data => do
    let wellFormed := (method.toNat * 256 + flags.toNat) % 31 = 0 && method.toNat % 16 = 8 &&
      method.toNat / 16 ≤ 7 && !flags.toNat.testBit 5
    if wellFormed then
      let bits := data.flatMap bitsOfByte
      let (out, bits) ← blocks? (bits.length + 1) ByteArray.empty bits
      if 32 ≤ (aligned bits).length then some out else none
    else none
  | _ => none

end BandCanvas.Inflate
