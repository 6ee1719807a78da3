namespace BandCanvas.Punycode

def digit (d : Nat) : Char :=
  if d < 26 then Char.ofNat ('a'.toNat + d) else Char.ofNat ('0'.toNat + (d - 26))

/-- A digit below the threshold of its place is the last one. -/
def threshold (place bias : Nat) : Nat :=
  min 26 (max 1 (place - bias))

theorem threshold_pos (place bias : Nat) : 0 < threshold place bias := by
  unfold threshold
  omega

def digits (bias place n : Nat) : List Char :=
  let t := threshold place bias
  if n < t then [digit n]
  else digit (t + (n - t) % (36 - t)) :: digits bias (place + 36) ((n - t) / (36 - t))
termination_by n
decreasing_by
  have h := threshold_pos place bias
  have := Nat.div_le_self (n - threshold place bias) (36 - threshold place bias)
  omega

def biasOf (place n : Nat) : Nat :=
  if 455 < n then biasOf (place + 36) (n / 35) else place + 36 * n / (n + 38)
termination_by n
decreasing_by omega

def adapt (first : Bool) (count n : Nat) : Nat :=
  let n := n / if first then 700 else 2
  biasOf 0 (n + n / count)

structure State where
  out : List Char
  distance : Nat
  bias : Nat
  written : Nat

def pass (ascii m : Nat) (s : State) (c : Char) : State :=
  if c.toNat < m then { s with distance := s.distance + 1 }
  else if c.toNat = m then
    { out := s.out ++ digits s.bias 36 s.distance
      distance := 0
      bias := adapt (s.written = ascii) (s.written + 1) s.distance
      written := s.written + 1 }
  else s

def write (name : List Char) (ascii : Nat) : List Nat → Nat → State → State
  | [], _, s => s
  | m :: ms, next, s =>
    let s := { s with distance := s.distance + (m - next) * (s.written + 1) }
    let s := name.foldl (pass ascii m) s
    write name ascii ms (m + 1) { s with distance := s.distance + 1 }

def isAscii (c : Char) : Bool :=
  c.toNat < 128

def encode (name : List Char) : List Char :=
  let ascii := name.filter isAscii
  let others := ((name.filter (!isAscii ·)).map Char.toNat).mergeSort.eraseDups
  let s := write name ascii.length others 128 ⟨[], 0, 72, ascii.length⟩
  ascii ++ (if ascii.isEmpty then [] else ['-']) ++ s.out

def value? (c : Char) : Option Nat :=
  if '0' ≤ c ∧ c ≤ '9' then some (c.toNat - '0'.toNat + 26)
  else if 'a' ≤ c.toLower ∧ c.toLower ≤ 'z' then some (c.toLower.toNat - 'a'.toNat)
  else none

def limit : Nat :=
  1 <<< 32

def readDistance? (bias : Nat) : (place weight n : Nat) → List Char → Option (Nat × List Char)
  | _, _, _, [] => none
  | place, weight, n, c :: rest => do
    let d ← value? c
    let n := n + d * weight
    let t := threshold place bias
    if limit ≤ n then none
    else if d < t then some (n, rest)
    else if limit ≤ weight * (36 - t) then none
    else readDistance? bias (place + 36) (weight * (36 - t)) n rest

theorem readDistance?_length_lt {bias place weight n m : Nat} {s rest : List Char}
    (h : readDistance? bias place weight n s = some (m, rest)) : rest.length < s.length := by
  induction s generalizing place weight n with
  | nil => simp [readDistance?] at h
  | cons c s ih =>
    unfold readDistance? at h
    cases hv : value? c with
    | none => simp [hv] at h
    | some d =>
      simp only [hv, Option.bind_eq_bind, Option.bind_some] at h
      split at h
      · cases h
      · split at h
        · cases h
          simp
        · split at h
          · cases h
          · have := ih h
            simp only [List.length_cons]
            omega

/-- Puts letters into a name. Places are counted through all letters from `letter` on, and the next is `n`. -/
def insertAll? (letter n bias : Nat) (name s : List Char) : Option (List Char) :=
  if s.isEmpty then some name
  else
    match _h : readDistance? bias 36 1 n s with
    | none => none
    | some (m, rest) =>
      let count := name.length + 1
      let letter := letter + m / count
      if letter.isValidChar then
        let place := m % count
        insertAll? letter (place + 1) (adapt (n = 0) count (m - n))
          (name.take place ++ Char.ofNat letter :: name.drop place) rest
      else none
termination_by s.length
decreasing_by exact readDistance?_length_lt _h

def decode? (s : List Char) : Option (List Char) :=
  let digits := (s.reverse.takeWhile (· != '-')).reverse
  let ascii := s.take (s.length - digits.length - 1)
  if ascii.isEmpty then insertAll? 128 0 72 [] s
  else if ascii.all isAscii then insertAll? 128 0 72 ascii digits
  else none

end BandCanvas.Punycode
