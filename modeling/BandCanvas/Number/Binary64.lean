namespace BandCanvas.Binary64

def negative (x : Float) : Bool :=
  x.toBits >>> 63 == 1

/-- The bits below the sign: for numbers that are not NaN they are ordered as the magnitudes are. -/
def magnitudeBits (x : Float) : Nat :=
  (x.toBits &&& 0x7fffffffffffffff).toNat

/-- The highest bit of a significand, which the bits of a number leave out. -/
def highBit : Nat := 1 <<< 52

def significand (x : Float) : Nat :=
  let m := magnitudeBits x
  if m < highBit then m else m % highBit + highBit

def exponent (x : Float) : Int :=
  let e : Nat := magnitudeBits x >>> 52
  if e = 0 then -1074 else e - 1075

def infinity : Float :=
  Float.ofBits 0x7ff0000000000000

def nan : Float :=
  Float.ofBits 0x7ff8000000000000

def withSign (neg : Bool) (x : Float) : Float :=
  if neg then -x.abs else x.abs

/-- Drops the last `shift` bits of `n`, rounding to even; `more` says that the exact value lies above `n`. -/
def roundShift (n shift : Nat) (more : Bool) : Nat :=
  let q := n >>> shift
  let r := n - q <<< shift
  let half := 1 <<< (shift - 1)
  if shift = 0 ∨ r < half then q
  else if half < r ∨ more ∨ q % 2 = 1 then q + 1
  else q

/-- The nearest number to `m · 2^e`, or to a value above it by less than `2^e` if `more` holds. -/
def ofScaled (m : Nat) (e : Int) (more : Bool) : Float :=
  if m = 0 then 0
  else
    let q := max (e + m.log2 - 52) (-1074)
    let n := if q ≤ e then m <<< (e - q).toNat else roundShift m (q - e).toNat more
    let bits := (q + 1074).toNat <<< 52 + n
    if bits < 0x7ff0000000000000 then Float.ofBits bits.toUInt64 else infinity

/-- Places a number in the total order of all numbers, in which `-0` comes before `0`. -/
def totalKey (x : Float) : Int :=
  if negative x then -(magnitudeBits x : Int) - 1 else magnitudeBits x

/-- The total order of numbers: `-∞`, the finite ones with `-0` before `0`, `∞`, NaN. -/
def totalLE (x y : Float) : Bool :=
  totalKey x ≤ totalKey y

end BandCanvas.Binary64
