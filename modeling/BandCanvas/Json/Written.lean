import BandCanvas.Json.Basic
import BandCanvas.Number.Decimal
import BandCanvas.Text.Hex

namespace BandCanvas

structure JsonNumber where
  negative : Bool
  whole : List Char
  fraction : Option (List Char)
  exponent : Option (Bool × List Char)
  deriving DecidableEq, Repr

namespace JsonNumber

def digitValue (c : Char) : Nat :=
  c.toNat - '0'.toNat

/-- Reads digits after `n` as long as the number stays within 64 bits. Gives the digits left over. -/
def accumulate (n : Nat) : List Char → Nat × List Char
  | [] => (n, [])
  | d :: ds =>
    if 10 * n + digitValue d < 1 <<< 64 then accumulate (10 * n + digitValue d) ds else (n, d :: ds)

def scale : (fuel : Nat) → Float → Int → Option Float
  | 0, _, _ => some 0
  | fuel + 1, x, e =>
    if e.natAbs ≤ 308 then
      let power := Float.ofScientific 1 false e.natAbs
      if e < 0 then some (x / power)
      else if (x * power).isInf then none
      else some (x * power)
    else if x == 0 then some x
    else if 0 ≤ e then none
    else scale fuel (x / Float.ofScientific 1 false 308) (e + 308)

/-- The binary64 number: sixty-four bits of the digits, scaled once. Too large a number is none. -/
def float? (n : JsonNumber) : Option Float := do
  let (head, left) := accumulate 0 n.whole
  let fraction := n.fraction.getD []
  let (coefficient, ignored) := accumulate head fraction
  let places : Int := left.length - (fraction.length - ignored.length)
  let magnitude := coefficient.toUInt64.toFloat
  let x ← match n.exponent with
    | none => scale 4 magnitude places
    | some (negative, digits) =>
      let e : Int := digits.foldl (fun e d => 10 * e + digitValue d) 0
      if 2147483647 < e then
        if coefficient ≠ 0 ∧ !negative then none else some 0
      else scale 4 magnitude (if negative then places - e else places + e)
  pure (if n.negative then -x else x)

/-- An integer of 64 bits, if the text is a plain integer. There is no negative zero among them. -/
def integer? (n : JsonNumber) : Option Int :=
  if n.fraction.isSome || n.exponent.isSome then none
  else
    let (value, left) := accumulate 0 n.whole
    if left ≠ [] then none
    else if !n.negative then some value
    else if 0 < value ∧ value ≤ 1 <<< 63 then some (-value)
    else none

end JsonNumber

namespace Json

/-- JSON as written: repeated members are all there, and a string that holds half a surrogate pair
has no content. -/
inductive Written where
  | null
  | bool (value : Bool)
  | number (text : JsonNumber)
  | string (content : Option String)
  | array (items : List Written)
  | object (members : List (Option String × Written))

namespace Written

def isBlank (c : Char) : Bool :=
  c = ' ' || c = '\n' || c = '\t' || c = '\r'

def skipBlanks (s : List Char) : List Char :=
  s.dropWhile isBlank

def digits (s : List Char) : List Char × List Char :=
  (s.takeWhile Char.isDigit, s.dropWhile Char.isDigit)

def integerPart? (s : List Char) : Option (List Char × List Char) :=
  match s with
  | '0' :: rest => if (rest.head?.map Char.isDigit).getD false then none else some (['0'], rest)
  | _ =>
    let (ds, rest) := digits s
    if ds = [] then none else some (ds, rest)

def fractionPart? (s : List Char) : Option (Option (List Char) × List Char) :=
  match s with
  | '.' :: rest =>
    let (ds, rest) := digits rest
    if ds = [] then none else some (some ds, rest)
  | _ => some (none, s)

def exponentPart? (s : List Char) : Option (Option (Bool × List Char) × List Char) :=
  match s with
  | c :: rest =>
    if c = 'e' ∨ c = 'E' then
      let negative := rest.head? == some '-'
      let rest := if negative || rest.head? == some '+' then rest.drop 1 else rest
      let (ds, rest) := digits rest
      if ds = [] then none else some (some (negative, ds), rest)
    else some (none, s)
  | [] => some (none, s)

def number? (s : List Char) : Option (JsonNumber × List Char) := do
  let negative := s.head? == some '-'
  let (whole, s) ← integerPart? (if negative then s.drop 1 else s)
  let (fraction, s) ← fractionPart? s
  let (exponent, s) ← exponentPart? s
  pure (⟨negative, whole, fraction, exponent⟩, s)

def hex4? : List Char → Option (Nat × List Char)
  | a :: b :: c :: d :: rest => do
    let a ← Hex.value? a
    let b ← Hex.value? b
    let c ← Hex.value? c
    let d ← Hex.value? d
    pure (4096 * a + 256 * b + 16 * c + d, rest)
  | _ => none

inductive Piece where
  | char (c : Char)
  | high (n : Nat)
  | low (n : Nat)

def Piece.ofUnit (n : Nat) : Piece :=
  if 0xd800 ≤ n ∧ n < 0xdc00 then high (n - 0xd800)
  else if 0xdc00 ≤ n ∧ n < 0xe000 then low (n - 0xdc00)
  else char (Char.ofNat n)

def escaped? : List Char → Option (Piece × List Char)
  | '"' :: rest => some (.char '"', rest)
  | '\\' :: rest => some (.char '\\', rest)
  | '/' :: rest => some (.char '/', rest)
  | 'b' :: rest => some (.char '\x08', rest)
  | 'f' :: rest => some (.char '\x0c', rest)
  | 'n' :: rest => some (.char '\n', rest)
  | 'r' :: rest => some (.char '\r', rest)
  | 't' :: rest => some (.char '\t', rest)
  | 'u' :: rest => (hex4? rest).map fun (n, rest) => (.ofUnit n, rest)
  | _ => none

def pieces? : (fuel : Nat) → List Char → Option (List Piece × List Char)
  | 0, _ => none
  | _, [] => none
  | _, '"' :: rest => some ([], rest)
  | fuel + 1, '\\' :: rest => do
    let (p, rest) ← escaped? rest
    let (ps, rest) ← pieces? fuel rest
    pure (p :: ps, rest)
  | fuel + 1, c :: rest => do
    if c < ' ' then none
    else
      let (ps, rest) ← pieces? fuel rest
      pure (.char c :: ps, rest)

/-- Joins surrogate pairs. -/
def content? : List Piece → Option (List Char)
  | [] => some []
  | .char c :: ps => (content? ps).map (c :: ·)
  | .high h :: .low l :: ps => (content? ps).map (Char.ofNat (0x10000 + 1024 * h + l) :: ·)
  | _ => none

def string? (s : List Char) : Option (Option String × List Char) := do
  let (ps, rest) ← pieces? (s.length + 1) s
  pure ((content? ps).map String.ofList, rest)

def separated? (close : Char) (s : List Char) : Option (Bool × List Char) :=
  match skipBlanks s with
  | c :: rest => if c = ',' then some (true, rest) else if c = close then some (false, rest) else none
  | [] => none

mutual

def value (fuel : Nat) (s : List Char) : Option (Written × List Char) :=
  match fuel with
  | 0 => none
  | fuel + 1 =>
    match skipBlanks s with
    | 'n' :: 'u' :: 'l' :: 'l' :: rest => some (null, rest)
    | 't' :: 'r' :: 'u' :: 'e' :: rest => some (bool true, rest)
    | 'f' :: 'a' :: 'l' :: 's' :: 'e' :: rest => some (bool false, rest)
    | '"' :: rest => (string? rest).map fun (content, rest) => (string content, rest)
    | '[' :: rest =>
      match skipBlanks rest with
      | ']' :: rest => some (array [], rest)
      | rest => (items fuel rest).map fun (vs, rest) => (array vs, rest)
    | '\x7b' :: rest =>
      match skipBlanks rest with
      | '\x7d' :: rest => some (object [], rest)
      | rest => (members fuel rest).map fun (ms, rest) => (object ms, rest)
    | s => (number? s).map fun (n, rest) => (number n, rest)

def items (fuel : Nat) (s : List Char) : Option (List Written × List Char) :=
  match fuel with
  | 0 => none
  | fuel + 1 => do
    let (v, s) ← value fuel s
    let (more, s) ← separated? ']' s
    if more then
      let (vs, s) ← items fuel s
      pure (v :: vs, s)
    else
      pure ([v], s)

def members (fuel : Nat) (s : List Char) : Option (List (Option String × Written) × List Char) :=
  match fuel with
  | 0 => none
  | fuel + 1 =>
    match skipBlanks s with
    | '"' :: s => do
      let (name, s) ← string? s
      match skipBlanks s with
      | ':' :: s =>
        let (v, s) ← value fuel s
        let (more, s) ← separated? '\x7d' s
        if more then
          let (ms, s) ← members fuel s
          pure ((name, v) :: ms, s)
        else
          pure ([(name, v)], s)
      | _ => none
    | _ => none

end

def parse? (text : String) : Option Written :=
  let s := text.toList
  match value (2 * s.length + 2) s with
  | some (v, rest) => if skipBlanks rest = [] then some v else none
  | none => none

mutual

/-- The value a text denotes, if it nests at most `depth` deep. The last of repeated members counts. -/
def value? (depth : Nat) : Written → Option Json
  | null => some .null
  | bool b => some (.bool b)
  | number n =>
    match n.integer? with
    | some i => some (.integer i)
    | none => n.float?.map .number
  | string s => s.map .string
  | array vs => if depth = 0 then none else (values? (depth - 1) vs).map .array
  | object ms => if depth = 0 then none else (memberValues? (depth - 1) [] ms).map .object

def values? (depth : Nat) : List Written → Option (List Json)
  | [] => some []
  | v :: vs => do
    let j ← value? depth v
    let js ← values? depth vs
    pure (j :: js)

def memberValues? (depth : Nat) (done : List (String × Json)) :
    List (Option String × Written) → Option (List (String × Json))
  | [] => some done
  | (name, v) :: ms => do
    let j ← value? depth v
    memberValues? depth (Json.setMember (← name) j done) ms

end

def maxDepth : Nat := 127

end Written

def parse? (text : String) : Option Json := do
  (← Written.parse? text).value? Written.maxDepth

end Json

end BandCanvas
