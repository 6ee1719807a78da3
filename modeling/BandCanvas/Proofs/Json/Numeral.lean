import Mathlib
import BandCanvas.Json.Printer
import BandCanvas.Json.Written

namespace BandCanvas

namespace Json.Written

/-- What may follow a number: nothing that would go on with it. -/
def EndsNumber (rest : List Char) : Prop :=
  ∀ c ∈ rest.head?, c.isDigit = false ∧ c ≠ '.' ∧ c ≠ 'e' ∧ c ≠ 'E'

namespace EndsNumber

theorem nil : EndsNumber [] :=
  fun _ h => nomatch h

theorem cons {c : Char} (rest : List Char) (hdigit : c.isDigit = false) (hpoint : c ≠ '.') (hlower : c ≠ 'e')
    (hupper : c ≠ 'E') : EndsNumber (c :: rest) := by
  intro d hd
  obtain rfl : c = d := Option.some.inj hd
  exact ⟨hdigit, hpoint, hlower, hupper⟩

variable {rest : List Char}

theorem not_digit (h : EndsNumber rest) (c : Char) (hc : c ∈ rest.head?) : c.isDigit = false :=
  (h c hc).1

end EndsNumber

variable {ds rest : List Char}

theorem digits_append (hds : ∀ c ∈ ds, c.isDigit = true) (hrest : ∀ c ∈ rest.head?, c.isDigit = false) :
    digits (ds ++ rest) = (ds, rest) := by
  have hnone : rest.takeWhile Char.isDigit = [] ∧ rest.dropWhile Char.isDigit = rest := by
    cases rest with
    | nil => exact ⟨rfl, rfl⟩
    | cons c rest =>
      have hc : ¬ c.isDigit = true := by simp [hrest c rfl]
      exact ⟨List.takeWhile_cons_of_neg hc, List.dropWhile_cons_of_neg hc⟩
  rw [digits, List.takeWhile_append_of_pos hds, List.dropWhile_append_of_pos hds, hnone.1, hnone.2,
    List.append_nil]

end Json.Written

namespace JsonNumber

open Json.Written

def text (n : JsonNumber) : List Char :=
  (if n.negative then ['-'] else []) ++ (n.whole ++ (n.fraction.elim [] ('.' :: ·) ++
    n.exponent.elim [] fun e => 'e' :: (if e.1 then '-' else '+') :: e.2))

structure WellFormed (n : JsonNumber) : Prop where
  whole_digits : ∀ c ∈ n.whole, c.isDigit = true
  whole_ne_nil : n.whole ≠ []
  whole_zero : n.whole.head? = some '0' → n.whole = ['0']
  fraction : ∀ ds ∈ n.fraction, ds ≠ [] ∧ ∀ c ∈ ds, c.isDigit = true
  exponent : ∀ e ∈ n.exponent, e.2 ≠ [] ∧ ∀ c ∈ e.2, c.isDigit = true

section Reading

variable {n : JsonNumber} {ds rest : List Char}

theorem integerPart?_append (hds : ∀ c ∈ ds, c.isDigit = true) (hne : ds ≠ [])
    (hzero : ds.head? = some '0' → ds = ['0']) (hrest : ∀ c ∈ rest.head?, c.isDigit = false) :
    integerPart? (ds ++ rest) = some (ds, rest) := by
  by_cases hfirst : ds.head? = some '0'
  · rw [hzero hfirst]
    cases rest with
    | nil => rfl
    | cons c rest =>
      have hc : c.isDigit = false := hrest c rfl
      simp [integerPart?, hc]
  · have hsplit := digits_append hds hrest
    cases ds with
    | nil => exact absurd rfl hne
    | cons d ds =>
      have hd : d ≠ '0' := by
        rintro rfl
        exact hfirst rfl
      rw [integerPart?, hsplit]
      · simp
      · intro _ heq
        simp only [List.cons_append, List.cons.injEq] at heq
        exact hd heq.1

theorem fractionPart?_append (hds : ∀ c ∈ ds, c.isDigit = true) (hne : ds ≠ [])
    (hrest : ∀ c ∈ rest.head?, c.isDigit = false) :
    fractionPart? ('.' :: (ds ++ rest)) = some (some ds, rest) := by
  simp [fractionPart?, digits_append hds hrest, hne]

theorem fractionPart?_none (h : ∀ c ∈ rest.head?, c ≠ '.') : fractionPart? rest = some (none, rest) := by
  rw [fractionPart?]
  rintro tail rfl
  exact h '.' rfl rfl

theorem exponentPart?_append (negative : Bool) (hds : ∀ c ∈ ds, c.isDigit = true) (hne : ds ≠ [])
    (hrest : ∀ c ∈ rest.head?, c.isDigit = false) :
    exponentPart? ('e' :: (if negative then '-' else '+') :: (ds ++ rest)) =
      some (some (negative, ds), rest) := by
  cases negative <;> simp [exponentPart?, digits_append hds hrest, hne]

theorem exponentPart?_none (h : EndsNumber rest) : exponentPart? rest = some (none, rest) := by
  cases rest with
  | nil => rfl
  | cons c rest =>
    obtain ⟨-, -, hlower, hupper⟩ := h c rfl
    simp [exponentPart?, hlower, hupper]

theorem exponentPart?_text (h : n.WellFormed) (hrest : EndsNumber rest) :
    exponentPart? ((n.exponent.elim [] fun e => 'e' :: (if e.1 then '-' else '+') :: e.2) ++ rest) =
      some (n.exponent, rest) := by
  cases hexponent : n.exponent with
  | none => exact exponentPart?_none hrest
  | some e =>
    obtain ⟨hne, hds⟩ := h.exponent e hexponent
    exact exponentPart?_append e.1 hds hne hrest.not_digit

theorem exponentText_head (n : JsonNumber) (hrest : EndsNumber rest) (c : Char)
    (hc : c ∈ ((n.exponent.elim [] fun e => 'e' :: (if e.1 then '-' else '+') :: e.2) ++ rest).head?) :
    c.isDigit = false ∧ c ≠ '.' := by
  cases hexponent : n.exponent with
  | none =>
    rw [hexponent] at hc
    exact ⟨(hrest c hc).1, (hrest c hc).2.1⟩
  | some e =>
    rw [hexponent] at hc
    obtain rfl : 'e' = c := Option.some.inj hc
    decide

theorem fractionPart?_text (h : n.WellFormed) (htail : ∀ c ∈ rest.head?, c.isDigit = false ∧ c ≠ '.') :
    fractionPart? (n.fraction.elim [] ('.' :: ·) ++ rest) = some (n.fraction, rest) := by
  cases hfraction : n.fraction with
  | none => exact fractionPart?_none fun c hc => (htail c hc).2
  | some ds =>
    obtain ⟨hne, hds⟩ := h.fraction ds hfraction
    exact fractionPart?_append hds hne fun c hc => (htail c hc).1

theorem fractionText_head (n : JsonNumber) (htail : ∀ c ∈ rest.head?, c.isDigit = false ∧ c ≠ '.') (c : Char)
    (hc : c ∈ (n.fraction.elim [] ('.' :: ·) ++ rest).head?) : c.isDigit = false := by
  cases hfraction : n.fraction with
  | none =>
    rw [hfraction] at hc
    exact (htail c hc).1
  | some ds =>
    rw [hfraction] at hc
    obtain rfl : '.' = c := Option.some.inj hc
    decide

theorem text_head (h : n.WellFormed) : ∃ c s, n.text = c :: s ∧ (c = '-' ∨ c.isDigit = true) := by
  rw [text]
  cases n.negative with
  | true => exact ⟨'-', _, rfl, .inl rfl⟩
  | false =>
    cases hwhole : n.whole with
    | nil => exact absurd hwhole h.whole_ne_nil
    | cons d ds => exact ⟨d, _, rfl, .inr (h.whole_digits d (hwhole ▸ List.mem_cons_self))⟩

/-- A well-formed number is read back from its text. -/
theorem number?_text (h : n.WellFormed) (hrest : EndsNumber rest) :
    number? (n.text ++ rest) = some (n, rest) := by
  have htail := exponentText_head n hrest
  have hinteger := integerPart?_append h.whole_digits h.whole_ne_nil h.whole_zero (fractionText_head n htail)
  have hfraction := fractionPart?_text h htail
  have hexponent := exponentPart?_text h hrest
  have hminus : ((n.whole ++ (n.fraction.elim [] ('.' :: ·) ++
      ((n.exponent.elim [] fun e => 'e' :: (if e.1 then '-' else '+') :: e.2) ++ rest))).head? == some '-') =
        false := by
    cases hwhole : n.whole with
    | nil => exact absurd hwhole h.whole_ne_nil
    | cons d ds =>
      have hd : d.isDigit = true := h.whole_digits d (hwhole ▸ List.mem_cons_self)
      rw [List.cons_append, List.head?_cons, beq_eq_false_iff_ne]
      intro hd'
      obtain rfl : d = '-' := Option.some.inj hd'
      exact absurd hd (by decide)
  obtain ⟨negative, whole, fraction, exponent⟩ := n
  cases negative with
  | true =>
    simp only [text, number?, List.append_assoc, if_true, List.cons_append, List.nil_append, List.head?_cons,
      BEq.rfl, List.drop_one, List.tail_cons, hinteger, hfraction, hexponent, Option.bind_eq_bind,
      Option.bind_some]
    rfl
  | false =>
    simp only [text, number?, List.append_assoc, Bool.false_eq_true, if_false, List.nil_append, hminus, hinteger,
      hfraction, hexponent, Option.bind_eq_bind, Option.bind_some]
    rfl

end Reading

section Digits

variable {n : Nat}

theorem isDigit_toDigits (n : Nat) (c : Char) (hc : c ∈ Nat.toDigits 10 n) : c.isDigit = true :=
  Nat.isDigit_of_mem_toDigits (by decide) (by decide) hc

theorem head?_toDigits (hn : n ≠ 0) : (Nat.toDigits 10 n).head? ≠ some '0' := by
  induction n using Nat.strongRecOn with
  | ind n ih =>
    by_cases hlt : n < 10
    · rw [Nat.toDigits_of_lt_base hlt]
      have hall : ∀ d < 10, d ≠ 0 → [d.digitChar].head? ≠ some '0' := by decide
      exact hall n hlt hn
    · rw [Nat.toDigits_of_base_le (by decide) (by omega), List.head?_append_of_ne_nil _ Nat.toDigits_ne_nil]
      exact ih (n / 10) (by omega) (by omega)

theorem toDigits_zero_head (n : Nat) (h : (Nat.toDigits 10 n).head? = some '0') : Nat.toDigits 10 n = ['0'] := by
  by_cases hn : n = 0
  · subst hn
    rfl
  · exact absurd h (head?_toDigits hn)

theorem le_ofDigitChars (ds : List Char) (n : Nat) : n ≤ Nat.ofDigitChars 10 ds n := by
  induction ds generalizing n with
  | nil => exact Nat.le_of_eq Nat.ofDigitChars_nil.symm
  | cons d ds ih =>
    rw [Nat.ofDigitChars_cons]
    have := ih (10 * n + (d.toNat - '0'.toNat))
    omega

theorem accumulate_eq (ds : List Char) (n : Nat) (h : Nat.ofDigitChars 10 ds n < 2 ^ 64) :
    accumulate n ds = (Nat.ofDigitChars 10 ds n, []) := by
  induction ds generalizing n with
  | nil => rw [accumulate, Nat.ofDigitChars_nil]
  | cons d ds ih =>
    rw [Nat.ofDigitChars_cons] at h ⊢
    have hfits : 10 * n + digitValue d < 1 <<< 64 := Nat.lt_of_le_of_lt (le_ofDigitChars ds _) h
    rw [accumulate, if_pos hfits]
    exact ih _ h

end Digits

def ofInt (n : Int) : JsonNumber :=
  ⟨n < 0, Nat.toDigits 10 n.natAbs, none, none⟩

theorem text_ofInt (n : Int) : (ofInt n).text = (toString n).toList := by
  cases n with
  | ofNat n =>
    have htext : toString (Int.ofNat n) = n.repr := rfl
    have hsign : ¬ Int.ofNat n < 0 := by simp
    rw [htext, Nat.toList_repr]
    simp [text, ofInt]
  | negSucc n =>
    have htext : toString (Int.negSucc n) = "-" ++ (n + 1).repr := rfl
    rw [htext, String.toList_append, Nat.toList_repr]
    simp [text, ofInt, Int.negSucc_lt_zero]

theorem wellFormed_ofInt (n : Int) : (ofInt n).WellFormed where
  whole_digits := isDigit_toDigits _
  whole_ne_nil := Nat.toDigits_ne_nil
  whole_zero := toDigits_zero_head _
  fraction := nofun
  exponent := nofun

/-- An integer of 64 bits, with or without a sign, comes back as itself. -/
theorem integer?_ofInt {n : Int} (hlow : -2 ^ 63 ≤ n) (hhigh : n < 2 ^ 64) : (ofInt n).integer? = some n := by
  have hvalue : Nat.ofDigitChars 10 (Nat.toDigits 10 n.natAbs) 0 = n.natAbs := Nat.ofDigitChars_ten_toDigits
  have hread : accumulate 0 (ofInt n).whole = (n.natAbs, []) := by
    rw [ofInt, accumulate_eq, hvalue]
    rw [hvalue]
    omega
  have hplain : ((ofInt n).fraction.isSome || (ofInt n).exponent.isSome) = false := rfl
  have hsign : (ofInt n).negative = decide (n < 0) := rfl
  simp only [integer?, hplain, hread, hsign, Bool.false_eq_true, if_false, ne_eq, not_true_eq_false]
  by_cases hneg : n < 0
  · have hrange : 0 < n.natAbs ∧ n.natAbs ≤ 1 <<< 63 := by
      have hpow : 1 <<< 63 = 2 ^ 63 := rfl
      omega
    simp only [hneg, decide_true, Bool.not_true, Bool.false_eq_true, if_false, if_pos hrange, Option.some.injEq]
    omega
  · simp only [hneg, decide_false, Bool.not_false, if_true, Option.some.injEq]
    omega

/-- A number as it is written, which is never a plain integer. -/
def ofFloat (x : Float) : JsonNumber :=
  let d := Decimal.shortest .toEven x
  let ds := d.digits
  let first : Int := d.exponent + ds.length - 1
  let places := d.exponent.natAbs
  if d.coefficient = 0 then ⟨Binary64.negative x, ['0'], some ['0'], none⟩
  else if first < -5 ∨ 16 ≤ first then
    ⟨Binary64.negative x, ds.take 1, if ds.length ≤ 1 then none else some (ds.drop 1),
      some (first < 0, Nat.toDigits 10 first.natAbs)⟩
  else if 0 ≤ d.exponent then
    ⟨Binary64.negative x, ds ++ List.replicate d.exponent.toNat '0', some ['0'], none⟩
  else if places < ds.length then
    ⟨Binary64.negative x, ds.take (ds.length - places), some (ds.drop (ds.length - places)), none⟩
  else ⟨Binary64.negative x, ['0'], some (List.replicate (places - ds.length) '0' ++ ds), none⟩

theorem text_ofFloat (x : Float) : (ofFloat x).text = Json.numberText x := by
  simp only [ofFloat, Json.numberText, Decimal.positional, Binary64.sign]
  split
  · simp [text]
  split
  next =>
    by_cases hshort : (Decimal.shortest .toEven x).digits.length ≤ 1
    · simp [text, hshort]
    · simp [text, hshort]
  split
  · simp [text]
  split
  · simp [text]
  · simp [text]

section Parts

variable {negative : Bool} {ds : List Char} {fraction : Option (List Char)} {exponent : Option (Bool × List Char)}
  {k : Nat}

theorem wellFormed_nought (hfraction : ∀ fs ∈ fraction, fs ≠ [] ∧ ∀ c ∈ fs, c.isDigit = true) :
    WellFormed ⟨negative, ['0'], fraction, none⟩ where
  whole_digits c hc := by
    rw [List.mem_singleton.1 hc]
    rfl
  whole_ne_nil := List.cons_ne_nil _ _
  whole_zero _ := rfl
  fraction := hfraction
  exponent := nofun

theorem wellFormed_take (hdigits : ∀ c ∈ ds, c.isDigit = true) (hne : ds ≠ []) (hhead : ds.head? ≠ some '0')
    (hk : k ≠ 0) (hfraction : ∀ fs ∈ fraction, fs ≠ [] ∧ ∀ c ∈ fs, c.isDigit = true)
    (hexponent : ∀ e ∈ exponent, e.2 ≠ [] ∧ ∀ c ∈ e.2, c.isDigit = true) :
    WellFormed ⟨negative, ds.take k, fraction, exponent⟩ where
  whole_digits c hc := hdigits c (List.mem_of_mem_take hc)
  whole_ne_nil := by simp [hk, hne]
  whole_zero h := by
    rw [List.head?_take, if_neg hk] at h
    exact absurd h hhead
  fraction := hfraction
  exponent := hexponent

theorem drop_digits (hdigits : ∀ c ∈ ds, c.isDigit = true) (hk : k < ds.length) :
    ds.drop k ≠ [] ∧ ∀ c ∈ ds.drop k, c.isDigit = true := by
  refine ⟨?_, fun c hc => hdigits c (List.mem_of_mem_drop hc)⟩
  simp only [ne_eq, List.drop_eq_nil_iff]
  omega

end Parts

theorem wellFormed_ofFloat (x : Float) : (ofFloat x).WellFormed := by
  have hdigits := isDigit_toDigits (Decimal.shortest .toEven x).coefficient
  have hne : (Decimal.shortest .toEven x).digits ≠ [] := Nat.toDigits_ne_nil
  have hzero (c : Char) (n : Nat) (hc : c ∈ List.replicate n '0') : c.isDigit = true := by
    rw [List.eq_of_mem_replicate hc]
    rfl
  simp only [ofFloat]
  split
  · exact wellFormed_nought (by simp)
  next hcoefficient =>
    have hhead : (Decimal.shortest .toEven x).digits.head? ≠ some '0' := head?_toDigits hcoefficient
    change ∀ c ∈ (Decimal.shortest .toEven x).digits, c.isDigit = true at hdigits
    generalize (Decimal.shortest .toEven x).digits = ds at *
    split
    · apply wellFormed_take hdigits hne hhead (by decide)
      · intro fs hfs
        split at hfs
        · cases hfs
        next hlong =>
          obtain rfl := Option.some.inj hfs
          exact drop_digits hdigits (by omega)
      · rintro e he
        obtain rfl := Option.some.inj he
        exact ⟨Nat.toDigits_ne_nil, isDigit_toDigits _⟩
    split
    · refine ⟨?_, by simp [hne], ?_, by simp, nofun⟩
      · intro c hc
        exact (List.mem_append.1 hc).elim (hdigits c) (hzero c _)
      · intro h
        rw [List.head?_append_of_ne_nil _ hne] at h
        exact absurd h hhead
    have hpos : 0 < ds.length := List.length_pos_of_ne_nil hne
    split
    next hpoint =>
      apply wellFormed_take hdigits hne hhead (by omega)
      · intro fs hfs
        obtain rfl := Option.some.inj hfs
        exact drop_digits hdigits (by omega)
      · nofun
    · apply wellFormed_nought
      intro fs hfs
      obtain rfl := Option.some.inj hfs
      refine ⟨by simp [hne], fun c hc => ?_⟩
      exact (List.mem_append.1 hc).elim (hzero c _) (hdigits c)

end JsonNumber

end BandCanvas
