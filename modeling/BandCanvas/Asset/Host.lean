import BandCanvas.Asset.HostName
import BandCanvas.Text.Percent

namespace BandCanvas.Host

def isForbidden (c : Char) : Bool :=
  c.toNat = 0 || "\t\n\r #/:<>?@[\\]^|".toList.contains c

/-- A number of an address of four bytes: decimal, octal after a zero, or hexadecimal after `0x`. -/
def number? (s : List Char) : Option Nat :=
  let digits (base : Nat) (ds : List Char) : Option Nat :=
    ds.foldlM (fun n c => do
      let d ← Hex.value? c
      if d < base then some (base * n + d) else none) 0
  match s with
  | '0' :: 'x' :: ds => digits 16 ds
  | '0' :: d :: ds => digits 8 (d :: ds)
  | [] => none
  | ds => digits 10 ds

/-- The address that a host ending in a number stands for. The last number fills the bytes that the
others leave. -/
def fourBytes? (parts : List (List Char)) : Option (List Char) := do
  let numbers ← parts.mapM number?
  let last ← numbers.getLast?
  let front := numbers.dropLast
  if parts.length ≤ 4 && front.all (· ≤ 255) && last < 1 <<< (8 * (5 - parts.length)) then
    let value := front.zipIdx.foldl (fun value (n, i) => value + n <<< (8 * (3 - i))) last
    let byte (shift : Nat) : String := toString (value >>> shift % 256)
    some (".".intercalate ([24, 16, 8, 0].map byte)).toList
  else none

def endsInNumber (parts : List (List Char)) : Bool :=
  parts.getLast?.any fun p =>
    !p.isEmpty && p.all Char.isDigit || ['0', 'x'].isPrefixOf p && (number? p).isSome

def name? (text : List Char) : Option (List Char) := do
  let name ← HostName.ofText? (← Percent.decode? text)
  if name.isEmpty then none
  else
    let all := name.splitOn '.'
    let parts := if all.getLast? = some [] then all.dropLast else all
    if endsInNumber parts then fourBytes? parts else some name

def group? (s : List Char) : Option Nat :=
  if s.isEmpty || 4 < s.length then none
  else s.foldlM (fun n c => (Hex.value? c).map fun d => 16 * n + d) 0

def byte? (s : List Char) : Option Nat :=
  if s.isEmpty || !s.all Char.isDigit || (1 < s.length && s.head? = some '0') then none
  else (number? s).filter (· < 256)

def groups? (bytes : Bool) (s : List Char) : Option (List Nat) :=
  if s.isEmpty then some []
  else
    let parts := s.splitOn ':'
    match bytes, ((parts.getLast?.getD []).splitOn '.').mapM byte? with
    | true, some [a, b, c, d] =>
      (parts.dropLast.mapM group?).map fun gs => gs ++ [256 * a + b, 256 * c + d]
    | _, _ => parts.mapM group?

def atGap (before : List Char) : List Char → Option (List Char × List Char)
  | ':' :: ':' :: rest => some (before.reverse, rest)
  | c :: rest => atGap (c :: before) rest
  | [] => none

/-- The eight groups of an address of sixteen bytes. A pair of colons stands for groups of zeros. -/
def sixteenBytes? (s : List Char) : Option (List Nat) :=
  match atGap [] s with
  | none => (groups? true s).filter fun gs => gs.length = 8
  | some (before, after) => do
    let front ← groups? false before
    let back ← groups? true after
    if front.length + back.length < 8 then
      some (front ++ List.replicate (8 - front.length - back.length) 0 ++ back)
    else none

/-- Where the longest run of zeros starts, and how long it is. Of equal ones the first counts. -/
def longestGap (groups : List Nat) : Nat × Nat :=
  (List.range groups.length).foldl
    (fun best i =>
      let n := ((groups.drop i).takeWhile (· = 0)).length
      if best.2 < n then (i, n) else best) (0, 0)

def groupText (groups : List Nat) : List Char :=
  List.intercalate [':'] (groups.map (Nat.toDigits 16))

/-- The shortest text of an address of sixteen bytes. A single zero is written. -/
def sixteenBytesText (groups : List Nat) : List Char :=
  let (start, n) := longestGap groups
  if n < 2 then groupText groups
  else groupText (groups.take start) ++ [':', ':'] ++ groupText (groups.drop (start + n))

/-- A host. Where `named` does not hold, a text that is no address is taken as it is. -/
def parse? (named : Bool) (text : List Char) : Option (List Char) :=
  match text with
  | '[' :: rest =>
    if rest.getLast? = some ']' then
      (sixteenBytes? rest.dropLast).map fun gs => '[' :: sixteenBytesText gs ++ [']']
    else none
  | _ =>
    if named then name? text
    else if text.any isForbidden then none
    else some (Percent.encode (fun _ => false) text)

end BandCanvas.Host
