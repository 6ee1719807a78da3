import BandCanvas.Number.Rounding

namespace BandCanvas

/-- The value `coefficient · 10^exponent`. -/
structure Decimal where
  coefficient : Nat
  exponent : Int
  deriving DecidableEq, Repr

namespace Decimal

def tenTo (n : Nat) : Nat :=
  Nat.pow 10 n

def natOfDigits (digits : List Char) : Nat :=
  digits.foldl (fun n d => 10 * n + (d.toNat - '0'.toNat)) 0

def strip : (fuel : Nat) → Decimal → Decimal
  | 0, d => d
  | fuel + 1, d =>
    if d.coefficient ≠ 0 ∧ d.coefficient % 10 = 0 then
      strip fuel ⟨d.coefficient / 10, d.exponent + 1⟩
    else d

/-- Which of two neighbours stands for the value halfway between them: the even or the greater one. -/
inductive Tie where
  | toEven | up
  deriving DecidableEq, Repr

def Tie.takes (tie : Tie) (below : Nat) : Bool :=
  tie = .toEven && below % 2 = 0

/-- The positive rational `num / den`, and the open or closed interval around it that reads back as
the same number. -/
structure Target where
  low : Nat
  value : Nat
  high : Nat
  den : Nat
  closed : Bool

namespace Target

/-- The number `m · 2^e` among its neighbours. Below a power of two the neighbour is twice as near. -/
def ofParts (m : Nat) (e : Int) : Target :=
  let low := if m = Binary64.highBit ∧ e ≠ -1074 then 4 * m - 1 else 4 * m - 2
  let up := (e - 2).toNat
  let down := (2 - e).toNat
  ⟨low <<< up, (4 * m) <<< up, (4 * m + 2) <<< up, 1 <<< down, m % 2 = 0⟩

def contains (t : Target) (num den : Nat) : Bool :=
  if t.closed then t.low * den ≤ num * t.den && num * t.den ≤ t.high * den
  else t.low * den < num * t.den && num * t.den < t.high * den

/-- The exponent of the first decimal digit, found upwards from a guess that is not above it. -/
def leading (t : Target) : (fuel : Nat) → Int → Int
  | 0, e => e
  | fuel + 1, e =>
    if tenTo (e + 1).toNat * t.den ≤ t.value * tenTo (-(e + 1)).toNat then leading t fuel (e + 1) else e

def firstExponent (t : Target) : Int :=
  leading t 4 (((t.value.log2 : Int) - t.den.log2 - 1) * 30103 / 100000 - 1)

/-- The decimal on the grid `10^p` that lies in the interval and is nearest to the value. -/
def onGrid (t : Target) (tie : Tie) (p : Int) : Option Decimal :=
  let up := tenTo p.toNat
  let down := tenTo (-p).toNat
  let below := t.value * down / (t.den * up)
  let above := below + 1
  let hasBelow := t.contains (below * up) down
  let hasAbove := t.contains (above * up) down
  let twice := 2 * (t.value * down)
  let middle := (below + above) * (t.den * up)
  let takesBelow := twice < middle || twice = middle && tie.takes below
  if hasBelow && (takesBelow || !hasAbove) then some ⟨below, p⟩
  else if hasAbove then some ⟨above, p⟩
  else none

def search (t : Target) (tie : Tie) (first : Int) : (fuel digits : Nat) → Decimal
  | 0, digits => ⟨t.value / t.den, digits⟩
  | fuel + 1, digits =>
    match t.onGrid tie (first - digits) with
    | some d => d
    | none => search t tie first fuel (digits + 1)

end Target

def shortest (tie : Tie) (x : Float) : Decimal :=
  let m := Binary64.significand x
  if m = 0 then ⟨0, 0⟩
  else
    let t := Target.ofParts m (Binary64.exponent x)
    strip 20 (t.search tie t.firstExponent 17 0)

/-- The number nearest to a decimal. Exponents past the range are cut off first. -/
def read (neg : Bool) (d : Decimal) : Float :=
  let digits := if d.coefficient = 0 then 0 else d.coefficient.log2 / 3 + 1
  let x :=
    if d.coefficient = 0 ∨ d.exponent + digits < -400 then 0
    else if 400 < d.exponent then Binary64.infinity
    else Float.ofScientific d.coefficient (d.exponent < 0) d.exponent.natAbs
  Binary64.withSign neg x

def digits (d : Decimal) : List Char :=
  Nat.toDigits 10 d.coefficient

def positional (d : Decimal) : List Char :=
  let ds := d.digits
  if 0 ≤ d.exponent then
    ds ++ List.replicate d.exponent.toNat '0'
  else
    let places := d.exponent.natAbs
    if places < ds.length then
      ds.take (ds.length - places) ++ '.' :: ds.drop (ds.length - places)
    else
      '0' :: '.' :: (List.replicate (places - ds.length) '0' ++ ds)

end Decimal

namespace Binary64

def sign (x : Float) : List Char :=
  if negative x then ['-'] else []

/-- The shortest decimal text of a number, never with an exponent. A tie goes up. -/
def positional (x : Float) : String :=
  if x.isNaN then "NaN"
  else if x.isInf then String.ofList (sign x ++ "inf".toList)
  else String.ofList (sign x ++ (Decimal.shortest .up x).positional)

end Binary64

end BandCanvas
