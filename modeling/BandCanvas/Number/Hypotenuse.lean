import BandCanvas.Number.Binary64

namespace BandCanvas.Binary64

/-- One Newton step towards the square root of `n`, repeated until it stops falling. -/
def sqrtFrom (n : Nat) : (fuel guess : Nat) → Nat
  | 0, guess => guess
  | fuel + 1, guess =>
    let next := (guess + n / guess) / 2
    if next < guess then sqrtFrom n fuel next else guess

def sqrtNat (n : Nat) : Nat :=
  if n = 0 then 0 else sqrtFrom n (n.log2 + 2) (1 <<< (n.log2 / 2 + 1))

/-- The square root of `n · 2^(2e)`: fifty-six bits of it, and whether there are more, decide how it
rounds. -/
def sqrtScaled (n : Nat) (e : Int) : Float :=
  let k := 56 - n.log2 / 2
  let s := n <<< (2 * k)
  let r := sqrtNat s
  ofScaled r (e - k) (r * r != s)

def hypot (x y : Float) : Float :=
  if x.isInf || y.isInf then infinity
  else if x.isNaN || y.isNaN then nan
  else
    let e := min (exponent x) (exponent y)
    let m := significand x <<< (exponent x - e).toNat
    let n := significand y <<< (exponent y - e).toNat
    sqrtScaled (m * m + n * n) e

end BandCanvas.Binary64
