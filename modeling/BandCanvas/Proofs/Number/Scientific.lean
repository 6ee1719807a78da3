import BandCanvas.Proofs.Number.Conversion

namespace BandCanvas

def Decimal.value (d : Decimal) : ℚ :=
  d.coefficient * 10 ^ d.exponent

namespace Binary64

open Float.Model Float.Model.UnpackedFloat

variable {x v : Float} {q : ℚ} {n e : Nat} {neg : Bool}

section Signs

theorem withSign_spec (hx : x.isNaN = false) (neg : Bool) : (withSign neg x).isNaN = false ∧
    negative (withSign neg x) = neg ∧ rank (withSign neg x) = if neg then -|rank x| else |rank x| := by
  obtain ⟨hparts, hrank⟩ := unpack_rank hx
  have habs : x.abs = .ofModel (.pack x.toModel.unpack.abs) := rfl
  have hneg : -x.abs = .ofModel (.pack x.abs.toModel.unpack.neg) := rfl
  have hnan : x.toModel.unpack.isNaN = false := hx
  rw [withSign, hneg, habs, ← hrank]
  cases hu : x.toModel.unpack with
  | notANumber =>
    rw [hu] at hnan
    cases hnan
  | infinity s => cases neg <;> cases s <;> decide
  | zero s => cases neg <;> cases s <;> decide
  | finite s m e hm =>
    rw [hu] at hparts
    obtain ⟨hpos, hlt⟩ := magnitude_bounds hparts
    have hunpack (s : Sign) : (Float.ofModel (.pack (.finite s m e hm))).toModel.unpack = .finite s m e hm :=
      unpack_pack hparts
    have hsigned (s : Sign) : (Float.ofModel (.pack (.finite s m e hm))).isNaN = false ∧
        rank (.ofModel (.pack (.finite s m e hm))) = s.apply ((e + 1074) * 2 ^ 52 + m) := by
      have hnan : (Float.ofModel (.pack (.finite s m e hm))).isNaN = false := by
        show (Float.ofModel (.pack (.finite s m e hm))).toModel.unpack.isNaN = false
        rw [hunpack s]
        rfl
      rw [← (unpack_rank hnan).2, hunpack s]
      exact ⟨hnan, rfl⟩
    have hmagnitude : |s.apply ((e + 1074) * 2 ^ 52 + m)| = (e + 1074) * 2 ^ 52 + m := by
      cases s <;> simp only [Sign.apply, abs_neg, abs_of_pos hpos]
    rw [UnpackedFloat.abs, hunpack .positive, UnpackedFloat.neg, partsRank, hmagnitude]
    cases neg with
    | true =>
      obtain ⟨hnan, hrank⟩ := hsigned .negative
      exact ⟨hnan, negative_of_rank_neg (hrank.trans_lt (neg_neg_of_pos hpos)), hrank⟩
    | false =>
      obtain ⟨hnan, hrank⟩ := hsigned .positive
      exact ⟨hnan, negative_of_rank (hpos.trans_eq hrank.symm), hrank⟩

theorem Nearest.withSign (h : Nearest q x) (hq : 0 ≤ q) (neg : Bool) :
    Nearest (if neg then -q else q) (withSign neg x) ∧ negative (Binary64.withSign neg x) = neg := by
  obtain ⟨hnan, hsign, hrank⟩ := withSign_spec h.not_isNaN neg
  have hnonneg : 0 ≤ rank x := h.near.le_place 0 (Nat.zero_le _) (valueAt_zero.trans_le hq)
  rw [abs_of_nonneg hnonneg] at hrank
  refine ⟨⟨?_, hnan⟩, hsign⟩
  rw [hrank]
  cases neg with
  | true => exact h.neg
  | false => exact h.toNearestPlace

end Signs

section Range

/-- What is not past half the smallest number is read as zero. -/
theorem nearest_zero_of_le (hq : 0 ≤ q) (h : 2 * q ≤ 2 ^ (-1074 : Int)) : Nearest q 0 := by
  have hsmallest : valueAt (0 + 1) = 2 ^ (-1074 : Int) := by
    have hplace := placeValue_eq (n := 1) (t := 0) (by decide) (.inr rfl)
    rw [zero_add, ← Nat.cast_one, valueAt_natCast, ← Nat.zero_add 1, ← Nat.zero_mul (2 ^ 52), hplace]
    norm_num
  refine ⟨?_, by decide⟩
  rw [rank_zero]
  apply NearestPlace.of_below
  · exact valueAt_zero.trans_le hq
  · rwa [valueAt_zero, hsmallest, zero_add]
  · exact fun _ => Even.zero

theorem valueAt_topPlace : valueAt topPlace = 2 ^ (1024 : Nat) := by
  have hplace := placeValue_eq (n := 2 ^ 52) (t := 2046) (by decide) (.inl le_rfl)
  have htop : topPlace = 2046 * 2 ^ 52 + 2 ^ 52 := rfl
  have he : ((2046 : Nat) : Int) - 1074 = (972 : Nat) := rfl
  have hpow : (2 ^ 52 : Nat) = (2 : ℚ) ^ 52 := by norm_num
  rw [valueAt_natCast, htop, hplace, he, zpow_natCast, hpow, ← pow_add]

theorem nearest_infinity (h : 2 ^ (1024 : Nat) ≤ q) : Nearest q infinity := by
  have hrank : rank infinity = topPlace := by decide
  refine ⟨?_, by decide⟩
  rw [hrank]
  exact .top (valueAt_topPlace.trans_le h)

end Range

section Powers

def powerOfTen (e : Nat) (h : e < Float.exactlyRepresentablePowersOfTen.size) : Float :=
  Float.exactlyRepresentablePowersOfTen[e]

theorem powerOfTen_rank : ∀ e, (h : e < 23) → (powerOfTen e h).isFinite = true ∧ rank (powerOfTen e h) =
    ((e + (5 ^ e).log2 + 1022) * 2 ^ 52 + 5 ^ e * 2 ^ (52 - (5 ^ e).log2) : Nat) ∧ (5 ^ e).log2 ≤ 52 ∧
      2 ^ 52 ≤ 5 ^ e * 2 ^ (52 - (5 ^ e).log2) ∧ 5 ^ e * 2 ^ (52 - (5 ^ e).log2) ≤ 2 ^ 53 := by
  decide +kernel

theorem value_powerOfTen (h : e < 23) : value (powerOfTen e h) = 10 ^ e := by
  obtain ⟨-, hrank, hlog, hlow, hhigh⟩ := powerOfTen_rank e h
  have hexp : ((e + (5 ^ e).log2 + 1022 : Nat) : Int) - 1074 = e - (52 - (5 ^ e).log2 : Nat) := by omega
  have hten : (10 : ℚ) ^ e = 5 ^ e * 2 ^ e := by
    rw [← mul_pow]
    norm_num
  rw [value, hrank, valueAt_natCast, placeValue_eq hhigh (.inl hlow), hexp, zpow_sub₀ (by norm_num), hten]
  push_cast
  simp only [zpow_natCast]
  field_simp

theorem ofScientific_table (hn : n < 2 ^ 53) (he : e < 23) : Float.ofScientific n neg e =
    if neg then ofWhole n / powerOfTen e he else ofWhole n * powerOfTen e he := by
  rw [Float.ofScientific, dif_pos ⟨hn, by omega⟩, toFloat_eq_ofWhole hn]
  rfl

theorem nearest_ofScientific (hn : n ≠ 0) (he : e ≤ 2 ^ 11) :
    Nearest (n * 10 ^ e) (Float.ofScientific n false e) := by
  by_cases htable : n < 2 ^ 53 ∧ e ≤ 22
  · obtain ⟨hlt, hle⟩ := htable
    have hpower : e < 23 := by omega
    have hmul := nearest_mul (isFinite_ofWhole hlt) (powerOfTen_rank e hpower).1
    rw [value_ofWhole hlt, value_powerOfTen hpower] at hmul
    rwa [ofScientific_table hlt hpower, if_neg Bool.false_ne_true]
  · exact nearest_ofScientific_large hn he htable

/-- Past the table the quotient is rounded once. -/
theorem nearest_ofScientific_neg (hn : n ≠ 0) (hpos : 0 < e) (he : e ≤ 2 ^ 11 + n.log2) :
    Nearest (n / 10 ^ e) (Float.ofScientific n true e) := by
  by_cases htable : n < 2 ^ 53 ∧ e ≤ 22
  · obtain ⟨hlt, hle⟩ := htable
    have hpower : e < 23 := by omega
    have hvalue := value_powerOfTen hpower
    have hdiv := nearest_div (isFinite_ofWhole hlt) (powerOfTen_rank e hpower).1 (by rw [hvalue]; positivity)
    rw [value_ofWhole hlt, hvalue] at hdiv
    rwa [ofScientific_table hlt hpower, if_pos rfl]
  · have hexp : Int.negOfNat e = -(e : Int) := Int.negOfNat_eq
    have htoNat : (- -(e : Int)).toNat = e := by omega
    have hquot := nearest_divParts .positive .positive (Nat.pos_of_ne_zero hn) (Nat.pow_pos (show 0 < 10 by decide)) 0 0
      (n := 10 ^ e)
    have hparts : UnpackedFloat.ofScientific Format.binary64 n (-(e : Int)) =
        UnpackedFloat.div Format.binary64 (.finite .positive n 0 (Nat.pos_of_ne_zero hn))
          (.finite .positive (10 ^ e) 0 (Nat.pow_pos (by decide))) := by
      have hlarge : ¬ -(e : Int) > 2 ^ 11 := by omega
      have hsmall : ¬ -(e : Int) < -((2 ^ 11 : Int) + n.log2) := by omega
      rw [UnpackedFloat.ofScientific, dif_neg hn, if_neg hlarge, if_neg hsmall, if_neg (by omega)]
      simp only [htoNat]
    rw [Float.ofScientific, dif_neg htable]
    show Nearest _ (.ofModel (.pack (UnpackedFloat.ofScientific Format.binary64 n (Int.negOfNat e))))
    have hvalue : (n : ℚ) / 10 ^ e = (Sign.positive / Sign.positive).apply 1 *
        (n * 2 ^ (0 : Int) / ((10 ^ e : Nat) * 2 ^ (0 : Int))) := by
      show _ = ((1 : Int) : ℚ) * _
      push_cast
      ring
    rw [hexp, hparts, hvalue]
    exact hquot

end Powers

section Reading

/-- Digits as they are counted before a decimal is read are enough for its coefficient. -/
theorem lt_tenTo_digits (n : Nat) : (n : ℚ) < 10 ^ (n.log2 / 3 + 1) := by
  have hlt : n < 10 ^ (n.log2 / 3 + 1) := by
    calc n < 2 ^ (n.log2 + 1) := Nat.lt_log2_self
      _ ≤ 2 ^ (3 * (n.log2 / 3 + 1)) := Nat.pow_le_pow_right (by decide) (by omega)
      _ = 8 ^ (n.log2 / 3 + 1) := by rw [Nat.pow_mul]
      _ ≤ 10 ^ (n.log2 / 3 + 1) := Nat.pow_le_pow_left (by decide) _
  exact_mod_cast hlt

theorem twoTo_le_tenTo {k : Nat} (hk : 400 ≤ k) : (2 : ℚ) ^ (1075 : Nat) ≤ 10 ^ k := by
  calc (2 : ℚ) ^ (1075 : Nat) ≤ 2 ^ (3 * k) := pow_le_pow_right₀ (by norm_num) (by omega)
    _ = 8 ^ k := by rw [pow_mul]; norm_num
    _ ≤ 10 ^ k := pow_le_pow_left₀ (by norm_num) (by norm_num) k

/-- Exponents past the range are cut off without harm. -/
theorem nearest_decimal (hn : n ≠ 0) (e : Int) : Nearest (n * 10 ^ e) (
    if e + (n.log2 / 3 + 1 : Nat) < -400 then 0
    else if 400 < e then infinity
    else Float.ofScientific n (e < 0) e.natAbs) := by
  have hone : (1 : ℚ) ≤ n := by exact_mod_cast Nat.pos_of_ne_zero hn
  split
  next hsmall =>
    obtain ⟨k, hk⟩ : ∃ k : Nat, e + (n.log2 / 3 + 1 : Nat) = -k := ⟨(-(e + (n.log2 / 3 + 1 : Nat))).toNat, by omega⟩
    apply nearest_zero_of_le (by positivity)
    calc 2 * (n * (10 : ℚ) ^ e) ≤ 2 * (10 ^ (n.log2 / 3 + 1) * 10 ^ e) := by
          have := (lt_tenTo_digits n).le
          gcongr
      _ = 2 * (10 ^ k)⁻¹ := by
          rw [← zpow_natCast, ← zpow_add₀ (by norm_num), Int.add_comm, hk, zpow_neg, zpow_natCast]
      _ ≤ 2 * (2 ^ (1075 : Nat))⁻¹ := by
          have := twoTo_le_tenTo (show 400 ≤ k by omega)
          gcongr
      _ = 2 ^ (-1074 : Int) := by
          rw [← zpow_natCast, ← zpow_neg, ← zpow_one_add₀ (by norm_num)]
          rfl
  next hsmall =>
    split
    next hlarge =>
      obtain ⟨k, rfl⟩ := Int.eq_ofNat_of_zero_le (show 0 ≤ e by omega)
      apply nearest_infinity
      rw [zpow_natCast]
      calc (2 : ℚ) ^ (1024 : Nat) ≤ 2 ^ (1075 : Nat) := pow_le_pow_right₀ (by norm_num) (by decide)
        _ ≤ 10 ^ k := twoTo_le_tenTo (by omega)
        _ ≤ n * 10 ^ k := le_mul_of_one_le_left (by positivity) hone
    next hlarge =>
      rcases Int.lt_or_le e 0 with hneg | hnonneg
      · obtain ⟨k, rfl⟩ : ∃ k : Nat, e = -k := ⟨e.natAbs, by omega⟩
        rw [decide_eq_true hneg, Int.natAbs_neg, Int.natAbs_natCast, zpow_neg, zpow_natCast, ← div_eq_mul_inv]
        exact nearest_ofScientific_neg hn (by omega) (by omega)
      · obtain ⟨k, rfl⟩ := Int.eq_ofNat_of_zero_le hnonneg
        rw [decide_eq_false (by omega), Int.natAbs_natCast, zpow_natCast]
        exact nearest_ofScientific hn (by omega)

theorem nearest_read (neg : Bool) (d : Decimal) : Nearest (if neg then -d.value else d.value) (d.read neg) ∧
    negative (d.read neg) = neg := by
  obtain ⟨n, e⟩ := d
  refine Nearest.withSign ?_ (by rw [Decimal.value]; positivity) neg
  rw [Decimal.value]
  by_cases hn : n = 0
  · subst hn
    rw [if_pos (.inl rfl), Nat.cast_zero, zero_mul, ← value_zero]
    exact .self (by decide)
  · simp only [hn, false_or]
    exact nearest_decimal hn e

end Reading

section Integers

variable {i : Int}

theorem value_ofInt (h : i.natAbs ≤ 2 ^ 53) : (Float.ofInt i).isFinite = true ∧ value (Float.ofInt i) = i := by
  cases i with
  | ofNat n => exact value_toFloat h
  | negSucc n =>
    obtain ⟨hfinite, hvalue⟩ := value_toFloat (n := n + 1) h
    refine ⟨isFinite_neg hfinite, (value_neg hfinite).trans ?_⟩
    rw [hvalue, Int.cast_negSucc]

theorem negative_ofInt (h : i.natAbs ≤ 2 ^ 53) : negative (Float.ofInt i) = decide (i < 0) := by
  obtain ⟨-, hvalue⟩ := value_ofInt h
  rcases Int.lt_trichotomy i 0 with hneg | rfl | hpos
  · rw [decide_eq_true hneg]
    apply negative_of_rank_neg
    rw [← valueAt_strictMono.lt_iff_lt, ← value, hvalue, valueAt_zero]
    exact_mod_cast hneg
  · decide
  · rw [decide_eq_false (by omega)]
    apply negative_of_rank
    rw [← valueAt_strictMono.lt_iff_lt, ← value, hvalue, valueAt_zero]
    exact_mod_cast hpos

theorem Nearest.eq_ofInt (h : Nearest i v) (hsign : negative v = decide (i < 0)) (hi : i.natAbs ≤ 2 ^ 53) :
    v = Float.ofInt i := by
  obtain ⟨hfinite, hvalue⟩ := value_ofInt hi
  have hsame := h.rounded.value_eq_of_place _ (Rounded.natAbs_rank_le (not_isNaN_of_isFinite hfinite)) hvalue
  apply ext_rank
  · rw [hsign, negative_ofInt hi]
  · exact valueAt_strictMono.injective (hsame.trans hvalue.symm)

end Integers

end Binary64

end BandCanvas
