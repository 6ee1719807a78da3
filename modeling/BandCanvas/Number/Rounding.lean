import BandCanvas.Number.Binary64

namespace BandCanvas.Binary64

def trunc (x : Float) : Float :=
  if x.abs < 4503599627370496 then withSign (negative x) x.abs.toUInt64.toFloat else x

def floor (x : Float) : Float :=
  let t := trunc x
  if x < t then t - 1 else t

def ceil (x : Float) : Float :=
  let t := trunc x
  if t < x then t + 1 else t

/-- The nearest integer; a half goes away from zero. -/
def round (x : Float) : Float :=
  let t := trunc x
  if (x - t).abs ≥ 0.5 then t + withSign (negative x) 1 else t

/-- Two decimal places, the precision of the numbers sent to the server. -/
def round2 (x : Float) : Float :=
  round (x * 100) / 100

def isIntegral (x : Float) : Bool :=
  x.isFinite && trunc x == x

/-- The integer part as an integer between `lo` and `hi`. NaN becomes zero. -/
def toIntIn (lo hi : Int) (x : Float) : Int :=
  let n : Int := x.abs.toUInt64.toNat
  max lo (min hi (if x < 0 then -n else n))

def toInt64 (x : Float) : Int :=
  toIntIn (-9223372036854775808) 9223372036854775807 x

def toInt32 (x : Float) : Int :=
  toIntIn (-2147483648) 2147483647 x

def toNat32 (x : Float) : Nat :=
  x.toUInt32.toNat

def toNat64 (x : Float) : Nat :=
  x.toUInt64.toNat

/-- The smaller number; a NaN gives way to the other argument. -/
def least (x y : Float) : Float :=
  if x.isNaN || y < x then y else x

def greatest (x y : Float) : Float :=
  if x.isNaN || x < y then y else x

/-- Moves `x` into `lo ≤ x ≤ hi`; NaN stays. -/
def clamp (lo hi x : Float) : Float :=
  let y := if x < lo then lo else x
  if hi < y then hi else y

/-- The exact remainder of `x` divided by `y`, with the sign of `x`. -/
def remainder (x y : Float) : Float :=
  if x.isNaN || y.isNaN || x.isInf || y == 0 then nan
  else if y.isInf then x
  else
    let e := min (exponent x) (exponent y)
    let m := significand x <<< (exponent x - e).toNat
    let n := significand y <<< (exponent y - e).toNat
    withSign (negative x) (ofScaled (m % n) e false)

end BandCanvas.Binary64
