import BandCanvas.Text.Hex

namespace BandCanvas

/-- What is said of the code points from `first` to `last`. -/
structure CodePointRange (α : Type) where
  first : Nat
  last : Nat
  value : α

/-- Ranges in the order of their code points, none of which overlap. -/
structure CodePointTable (α : Type) where
  ranges : Array (CodePointRange α)

namespace CodePointTable

def search {α : Type} (ranges : Array (CodePointRange α)) (n low high : Nat) :
    Option (CodePointRange α) :=
  if low < high then
    let middle := (low + high) / 2
    match ranges[middle]? with
    | none => none
    | some r =>
      if n < r.first then search ranges n low middle
      else if r.last < n then search ranges n (middle + 1) high
      else some r
  else none
termination_by high - low

def range? {α : Type} (t : CodePointTable α) (c : Char) : Option (CodePointRange α) :=
  search t.ranges c.toNat 0 t.ranges.size

def find? {α : Type} (t : CodePointTable α) (c : Char) : Option α :=
  (t.range? c).map (·.value)

def contains {α : Type} (t : CodePointTable α) (c : Char) : Bool :=
  (t.range? c).isSome

def number (digits : List Char) : Nat :=
  digits.foldl (fun n d => 16 * n + (Hex.value? d).getD 0) 0

def rangeOfWord {α : Type} (value : List Char → α) (word : List Char) : CodePointRange α :=
  let span := word.takeWhile (· != '=')
  let first := span.takeWhile (· != '-')
  let last := span.drop (first.length + 1)
  { first := number first
    last := number (if last.isEmpty then first else last)
    value := value (word.drop (span.length + 1)) }

def words : List Char → List (List Char)
  | [] => [[]]
  | c :: rest =>
    match words rest with
    | word :: more => if c = ' ' || c = '\n' then [] :: word :: more else (c :: word) :: more
    | [] => []

def ofText {α : Type} (value : List Char → α) (text : String) : CodePointTable α :=
  ⟨(((words text.toList).filter (!·.isEmpty)).map (rangeOfWord value)).toArray⟩

end CodePointTable

abbrev CodePointSet := CodePointTable Unit

def CodePointSet.ofText (text : String) : CodePointSet :=
  CodePointTable.ofText (fun _ => ()) text

end BandCanvas
