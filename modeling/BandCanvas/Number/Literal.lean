import BandCanvas.Number.Decimal

namespace BandCanvas

structure Literal where
  whole : List Char
  fraction : List Char
  exponentNegative : Bool
  exponent : List Char
  deriving DecidableEq, Repr

namespace Literal

def sign : List Char → Bool × List Char
  | '-' :: s => (true, s)
  | '+' :: s => (false, s)
  | s => (false, s)

def isExponentMark (c : Char) : Bool :=
  c = 'e' || c = 'E'

def parse? (s : List Char) : Option Literal := do
  let mantissa := s.takeWhile (!isExponentMark ·)
  let tail := s.dropWhile (!isExponentMark ·)
  let whole := mantissa.takeWhile Char.isDigit
  let afterWhole := mantissa.dropWhile Char.isDigit
  let fraction := afterWhole.drop 1
  let (negative, exponent) := sign (tail.drop 1)
  let pointed := afterWhole = [] || afterWhole.head? == some '.'
  let scaled := tail = [] || exponent ≠ []
  if pointed && scaled && fraction.all Char.isDigit && exponent.all Char.isDigit &&
      whole ++ fraction ≠ [] then
    some ⟨whole, fraction, negative, exponent⟩
  else none

def toDecimal (l : Literal) : Decimal :=
  let e : Int := Decimal.natOfDigits l.exponent
  ⟨Decimal.natOfDigits (l.whole ++ l.fraction), (if l.exponentNegative then -e else e) - l.fraction.length⟩

def named? (s : List Char) : Option Float :=
  match String.ofList (s.map Char.toLower) with
  | "inf" | "infinity" => some Binary64.infinity
  | "nan" => some Binary64.nan
  | _ => none

def float? (text : String) : Option Float :=
  let (negative, s) := sign text.toList
  match named? s with
  | some x => some (if negative then -x else x)
  | none => (parse? s).map fun l => Decimal.read negative l.toDecimal

end Literal

end BandCanvas
