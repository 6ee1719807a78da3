import BandCanvas.Proofs.Number.Arithmetic

namespace BandCanvas.Binary64

open Float.Model Float.Model.UnpackedFloat

variable {x y : Float} {n : Nat}

section Integers

/-- Past the table of powers of ten the product is rounded once. -/
theorem nearest_ofScientific_large {e : Nat} (hn : n ≠ 0) (he : e ≤ 2 ^ 11) (hlarge : ¬ (n < 2 ^ 53 ∧ e ≤ 22)) :
    Nearest (n * (10 : ℚ) ^ e) (Float.ofScientific n false e) := by
  have hlong : 52 ≤ (n <<< 53 * 10 ^ e).log2 := by
    apply log2_mul_left _ (Nat.pow_pos (by decide))
    rw [Nat.shiftLeft_eq, log2_mul_two_pow hn]
    omega
  have hround := nearest_exact .positive (e := -53 + 0) (.inl hlong)
  have hvalue : (n : ℚ) * (10 : ℚ) ^ e =
      Sign.positive.apply 1 * ((n <<< 53 * 10 ^ e : Nat) * 2 ^ (-53 + 0 : Int)) := by
    have hscale : (2 : ℚ) ^ (-53 + 0 : Int) * 2 ^ 53 = 1 := by norm_num
    rw [Nat.shiftLeft_eq]
    show _ = ((1 : Int) : ℚ) * _
    push_cast
    linear_combination (-((n : ℚ) * (10 : ℚ) ^ e)) * hscale
  have hbound : ¬ (Int.ofNat e > 2 ^ 11) := by
    show ¬ ((e : Int) > 2 ^ 11)
    omega
  have hsmall : ¬ Int.ofNat e < -((2 ^ 11 : Int) + n.log2) := by
    show ¬ (e : Int) < _
    omega
  have hparts : UnpackedFloat.ofScientific Format.binary64 n (Int.ofNat e) =
      roundWithAccuracy Format.binary64 .positive (n <<< 53 * 10 ^ e) (-53 + 0) .exact := by
    rw [UnpackedFloat.ofScientific, dif_neg hn, if_neg hbound, if_neg hsmall,
      if_pos (show 0 ≤ Int.ofNat e from Int.natCast_nonneg e)]
    rfl
  rw [Float.ofScientific, dif_neg hlarge]
  show Nearest _ (.ofModel (.pack (UnpackedFloat.ofScientific Format.binary64 n (Int.ofNat e))))
  rw [hparts, hvalue]
  exact hround

theorem toFloat_eq_ofScientific (n : Nat) : n.toFloat = Float.ofScientific n false 0 :=
  rfl

theorem rounded_toFloat (n : Nat) : Rounded n n.toFloat := by
  rw [toFloat_eq_ofScientific]
  by_cases hlt : n < 2 ^ 53
  · rw [ofScientific_eq_ofWhole hlt]
    have hself := Rounded.self (not_isNaN_of_isFinite (isFinite_ofWhole hlt))
    rwa [value_ofWhole hlt] at hself
  · have hround := (nearest_ofScientific_large (n := n) (e := 0) (by omega) (by decide) (by omega)).rounded
    rwa [pow_zero, mul_one] at hround

/-- A whole number that fits the significand is exact. -/
theorem value_toFloat (h : n ≤ 2 ^ 53) : n.toFloat.isFinite = true ∧ value n.toFloat = n := by
  rcases Nat.lt_or_eq_of_le h with hlt | rfl
  · rw [toFloat_eq_ofScientific, ofScientific_eq_ofWhole hlt]
    exact ⟨isFinite_ofWhole hlt, value_ofWhole hlt⟩
  · have hrank : rank (2 ^ 53 : Nat).toFloat = (1075 * 2 ^ 52 + 2 ^ 52 : Nat) := by decide
    refine ⟨by decide, ?_⟩
    rw [value, hrank, valueAt_natCast, placeValue_eq (by decide) (.inl le_rfl)]
    norm_num

theorem value_one : value 1 = 1 := by
  have h := (value_toFloat (n := 1) (by decide)).2
  rwa [Nat.cast_one] at h

end Integers

section Finite

def greatestFinite : Float :=
  Float.ofBits 0x7fefffffffffffff

theorem isFinite_greatestFinite : greatestFinite.isFinite = true := by decide

theorem value_greatestFinite : value greatestFinite = (2 ^ 53 - 1) * 2 ^ 971 := by
  have hrank : rank greatestFinite = (2045 * 2 ^ 52 + (2 ^ 53 - 1) : Nat) := by decide
  have he : ((2045 : Nat) : Int) - 1074 = (971 : Nat) := by decide
  rw [value, hrank, valueAt_natCast, placeValue_eq (by decide) (.inl (by decide)), he, zpow_natCast]
  norm_num

theorem tenTo_le {e : Nat} (he : e ≤ 308) : (10 : ℚ) ^ e ≤ (2 ^ 53 - 1) * 2 ^ 971 := by
  have hten : (10 : ℚ) ^ 308 = 10 ^ 154 * 10 ^ 154 := by rw [← pow_add]
  have htwo : (2 : ℚ) ^ 971 = (2 ^ 242) ^ 4 * 2 ^ 3 := by rw [← pow_mul, ← pow_add]
  calc (10 : ℚ) ^ e ≤ 10 ^ 308 := pow_le_pow_right₀ (by norm_num) he
    _ ≤ (2 ^ 53 - 1) * 2 ^ 971 := by
      rw [hten, htwo]
      norm_num

theorem wordLimit_le : (2 : ℚ) ^ 64 ≤ (2 ^ 53 - 1) * 2 ^ 971 := by
  calc (2 : ℚ) ^ 64 ≤ 10 ^ 20 := by norm_num
    _ ≤ (2 ^ 53 - 1) * 2 ^ 971 := tenTo_le (by decide)

/-- A result that is not too large is finite. -/
theorem Rounded.isFinite_of_abs_le {q : ℚ} (h : Rounded q x) (hq : |q| ≤ (2 ^ 53 - 1) * 2 ^ 971) :
    x.isFinite = true := by
  rw [← value_greatestFinite, abs_le] at hq
  refine h.isFinite (isFinite_neg isFinite_greatestFinite) isFinite_greatestFinite ?_ hq.2
  rw [value_neg isFinite_greatestFinite]
  exact hq.1

theorem abs_value_le (h : x.isFinite = true) : |value x| ≤ (2 ^ 53 - 1) * 2 ^ 971 := by
  rw [← value_greatestFinite, abs_le]
  have hplace : rank greatestFinite = topPlace - 1 := by decide
  have hx := (isFinite_iff_rank (not_isNaN_of_isFinite h)).1 h
  constructor
  · rw [value, value, ← valueAt_neg]
    exact valueAt_strictMono.monotone (by omega)
  · exact valueAt_strictMono.monotone (by omega)

theorem isFinite_toFloat (h : n ≤ 2 ^ 64) : n.toFloat.isFinite = true := by
  apply (rounded_toFloat n).isFinite_of_abs_le
  have hn : (n : ℚ) ≤ 2 ^ 64 := by exact_mod_cast h
  rw [abs_of_nonneg (Nat.cast_nonneg n)]
  exact hn.trans wordLimit_le

theorem isFinite_ofInt {i : Int} (h : i.natAbs ≤ 2 ^ 64) : (Float.ofInt i).isFinite = true := by
  cases i with
  | ofNat n => exact isFinite_toFloat h
  | negSucc n => exact isFinite_neg (isFinite_toFloat h)

theorem powerOfTen_bounds {e : Nat} (he : e ≤ 308) :
    (Float.ofScientific 1 false e).isFinite = true ∧ 1 ≤ value (Float.ofScientific 1 false e) := by
  rcases Nat.lt_or_ge 22 e with hlarge | hsmall
  · have hround := (nearest_ofScientific_large (n := 1) (e := e) (by decide) (by omega) (by omega)).rounded
    rw [Nat.cast_one, one_mul] at hround
    have hone : (1 : ℚ) ≤ 10 ^ e := one_le_pow₀ (by norm_num)
    constructor
    · apply hround.isFinite_of_abs_le
      rw [abs_of_nonneg (by positivity)]
      exact tenTo_le he
    · have hle := hround.value_le (y := 1) (by decide) (value_one.trans_le hone)
      rwa [value_one] at hle
  · have htable : ∀ e ≤ 22, (Float.ofScientific 1 false e).isFinite = true ∧
        (1 : Float) ≤ Float.ofScientific 1 false e := by decide
    obtain ⟨hfinite, hle⟩ := htable e hsmall
    rw [value_le_iff (not_isNaN_of_le hle).1 (not_isNaN_of_le hle).2, value_one] at hle
    exact ⟨hfinite, hle⟩

theorem isFinite_div (hx : x.isFinite = true) (hy : y.isFinite = true) (hone : 1 ≤ value y) :
    (x / y).isFinite = true := by
  apply (rounded_div hx hy (by linarith)).isFinite_of_abs_le
  calc |value x / value y| ≤ |value x| := by
        rw [abs_div, abs_of_pos (show 0 < value y by linarith)]
        exact div_le_self (abs_nonneg _) hone
    _ ≤ (2 ^ 53 - 1) * 2 ^ 971 := abs_value_le hx

/-- A product of finite numbers is finite if it is not infinite. -/
theorem isFinite_mul (hx : x.isFinite = true) (hy : y.isFinite = true) (h : (x * y).isInf = false) :
    (x * y).isFinite = true := by
  have hnan : (x * y).toModel.unpack.isNaN = false := (rounded_mul hx hy).not_isNaN
  have hinf : (x * y).toModel.unpack.isInf = false := h
  show (x * y).toModel.unpack.isFinite = true
  cases hu : (x * y).toModel.unpack with
  | notANumber =>
    rw [hu] at hnan
    cases hnan
  | infinity =>
    rw [hu] at hinf
    cases hinf
  | zero | finite => rfl

theorem rounded_ofUInt64 (u : UInt64) : Rounded u.toNat u.toFloat := by
  have hround := (nearest_normalize u.toNat 0 .positive).rounded
  rw [zpow_zero, mul_one, Int.cast_natCast] at hround
  exact hround

theorem isFinite_ofUInt64 (u : UInt64) : u.toFloat.isFinite = true := by
  apply (rounded_ofUInt64 u).isFinite_of_abs_le
  have hu : ((u.toNat : Nat) : ℚ) ≤ 2 ^ 64 := by exact_mod_cast u.toNat_lt.le
  rw [abs_of_nonneg (Nat.cast_nonneg _)]
  exact hu.trans wordLimit_le

end Finite

end BandCanvas.Binary64
