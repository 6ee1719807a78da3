import BandCanvas.Proofs.Number.Positive

namespace BandCanvas.Binary64

open Float.Model Float.Model.UnpackedFloat

def topPlace : Nat := 2047 * 2 ^ 52

/-- The value at a place that counts from zero. From `2^53` on, each `2^52` places lie twice as far apart as those
before them. -/
def placeValue (k : Nat) : ℚ :=
  (k - (k / 2 ^ 52 - 1) * 2 ^ 52 : Nat) * 2 ^ (((k / 2 ^ 52 - 1 : Nat) : Int) - 1074)

theorem placeValue_eq {n t : Nat} (hn : n ≤ 2 ^ 53) (h : 2 ^ 52 ≤ n ∨ t = 0) :
    placeValue (t * 2 ^ 52 + n) = n * 2 ^ ((t : Int) - 1074) := by
  rcases Nat.lt_or_eq_of_le hn with hlt | rfl
  · have ht : (t * 2 ^ 52 + n) / 2 ^ 52 - 1 = t := by omega
    rw [placeValue, ht, Nat.add_sub_cancel_left]
  · have ht : (t * 2 ^ 52 + 2 ^ 53) / 2 ^ 52 - 1 = t + 1 := by omega
    have hn : t * 2 ^ 52 + 2 ^ 53 - (t + 1) * 2 ^ 52 = 2 ^ 52 := by omega
    have he : ((t + 1 : Nat) : Int) - 1074 = t - 1074 + 1 := by omega
    rw [placeValue, ht, hn, he, zpow_add_one₀ (by norm_num)]
    push_cast
    ring

theorem placeValue_lt_succ (k : Nat) : placeValue k < placeValue (k + 1) := by
  obtain ⟨t, n, hk, hn, hcase⟩ : ∃ t n, k = t * 2 ^ 52 + n ∧ n < 2 ^ 53 ∧ (2 ^ 52 ≤ n ∨ t = 0) :=
    ⟨k / 2 ^ 52 - 1, k - (k / 2 ^ 52 - 1) * 2 ^ 52, by omega, by omega, by omega⟩
  have hstep : (0 : ℚ) < 2 ^ ((t : Int) - 1074) := by positivity
  rw [hk, Nat.add_assoc, placeValue_eq (by omega) hcase, placeValue_eq (by omega) (by omega)]
  push_cast
  linarith

theorem placeValue_strictMono : StrictMono placeValue :=
  strictMono_nat_of_lt_succ placeValue_lt_succ

theorem placeValue_zero : placeValue 0 = 0 := by
  have h := placeValue_eq (n := 0) (t := 0) (by omega) (.inr rfl)
  simpa using h

def valueAt (r : Int) : ℚ :=
  r.sign * placeValue r.natAbs

theorem valueAt_natCast (k : Nat) : valueAt k = placeValue k := by
  rw [valueAt, Int.natAbs_natCast]
  rcases Nat.eq_zero_or_pos k with rfl | hk
  · rw [placeValue_zero, mul_zero]
  · rw [Int.sign_eq_one_of_pos (by omega), Int.cast_one, one_mul]

theorem valueAt_neg (r : Int) : valueAt (-r) = -valueAt r := by
  rw [valueAt, valueAt, Int.sign_neg, Int.natAbs_neg]
  push_cast
  ring

theorem valueAt_zero : valueAt 0 = 0 := by
  rw [valueAt, Int.sign_zero, Int.cast_zero, zero_mul]

theorem valueAt_strictMono : StrictMono valueAt := by
  apply strictMono_of_odd_strictMonoOn_nonneg valueAt_neg
  intro r hr r' hr' hlt
  obtain ⟨k, rfl⟩ := Int.eq_ofNat_of_zero_le hr
  obtain ⟨k', rfl⟩ := Int.eq_ofNat_of_zero_le hr'
  rw [valueAt_natCast, valueAt_natCast]
  exact placeValue_strictMono (by omega)

theorem valueAt_apply (s : Sign) (r : Int) : valueAt (s.apply r) = s.apply 1 * valueAt r := by
  cases s with
  | negative =>
    show valueAt (-r) = (-1 : Int) * valueAt r
    rw [valueAt_neg]
    push_cast
    ring
  | positive =>
    show valueAt r = (1 : Int) * valueAt r
    rw [Int.cast_one, one_mul]

/-- The value of a number that is not NaN. -/
def value (x : Float) : ℚ :=
  valueAt (rank x)

variable {x y : Float} {q : ℚ} {m : Nat} {e : Int}

theorem value_lt_iff (hx : x.isNaN = false) (hy : y.isNaN = false) : x < y ↔ value x < value y := by
  rw [lt_iff_rank hx hy, value, value, valueAt_strictMono.lt_iff_lt]

theorem value_le_iff (hx : x.isNaN = false) (hy : y.isNaN = false) : x ≤ y ↔ value x ≤ value y := by
  rw [le_iff_rank hx hy, value, value, valueAt_strictMono.le_iff_le]

theorem beq_iff_value (hx : x.isNaN = false) (hy : y.isNaN = false) : (x == y) = true ↔ value x = value y := by
  rw [beq_iff_rank hx hy, value, value, valueAt_strictMono.injective.eq_iff]

theorem value_zero : value 0 = 0 := by
  rw [value, rank_zero, valueAt_zero]

theorem not_isNaN_of_isFinite (h : x.isFinite = true) : x.isNaN = false :=
  (not_isNaN_of_beq (beq_self h)).1

/-- A finite number that is not NaN lies between the two infinities. -/
theorem isFinite_iff_rank (hx : x.isNaN = false) : x.isFinite = true ↔ (rank x).natAbs < topPlace := by
  obtain ⟨hparts, hrank⟩ := unpack_rank hx
  show x.toModel.unpack.isFinite = true ↔ _
  rw [← hrank]
  cases hu : x.toModel.unpack with
  | notANumber =>
    have hnan : x.toModel.unpack.isNaN = false := hx
    rw [hu] at hnan
    cases hnan
  | infinity s => cases s <;> simp [partsRank, Sign.apply, UnpackedFloat.isFinite, topPlace]
  | zero s => simp [partsRank, UnpackedFloat.isFinite, topPlace]
  | finite s m e hm =>
    rw [hu] at hparts
    obtain ⟨hpos, hlt⟩ := magnitude_bounds hparts
    simp only [UnpackedFloat.isFinite, true_iff, partsRank, topPlace]
    cases s <;> simp only [Sign.apply] <;> omega

def partsValue : UnpackedFloat → ℚ
  | .finite s m e _ => s.apply 1 * (m * 2 ^ e)
  | _ => 0

theorem valueAt_partsRank {u : UnpackedFloat} (hu : Unpacked u) (hfinite : u.isFinite = true) :
    valueAt (partsRank u) = partsValue u := by
  cases u with
  | notANumber | infinity => cases hfinite
  | zero => exact valueAt_zero
  | finite s m e hm =>
    obtain ⟨hlt, hmin, hmax, hcase⟩ := hu
    obtain ⟨t, ht⟩ := Int.eq_ofNat_of_zero_le (show 0 ≤ e + 1074 by omega)
    have hplace : (e + 1074) * 2 ^ 52 + (m : Int) = (t * 2 ^ 52 + m : Nat) := by
      rw [ht]
      push_cast
      rfl
    have he : (t : Int) - 1074 = e := by omega
    rw [partsRank, partsValue, hplace, valueAt_apply, valueAt_natCast, placeValue_eq (by omega) (by omega), he]

theorem value_eq_partsValue (h : x.isFinite = true) : value x = partsValue x.toModel.unpack := by
  obtain ⟨hparts, hrank⟩ := unpack_rank (not_isNaN_of_isFinite h)
  rw [value, ← hrank, valueAt_partsRank hparts h]

theorem HasParts.value_eq (h : HasParts x m e) : value x = m * 2 ^ e := by
  rw [value_eq_partsValue h.isFinite, h.unpack]
  show ((1 : Int) : ℚ) * _ = _
  rw [Int.cast_one, one_mul]

theorem value_ofWhole {n : Nat} (h : n < 2 ^ 53) : value (ofWhole n) = n := by
  rcases Nat.eq_zero_or_pos n with rfl | hn
  · rw [← zero_eq_ofWhole, value_zero, Nat.cast_zero]
  · have hle := log2_le_of_lt hn.ne' h
    have he : (n.log2 : Int) - 52 = -((52 - n.log2 : Nat) : Int) := by omega
    rw [(hasParts_ofWhole hn.ne' h).value_eq, he, zpow_neg, zpow_natCast]
    push_cast
    rw [mul_assoc, mul_inv_cancel₀ (by positivity), mul_one]

theorem isFinite_ofWhole {n : Nat} (h : n < 2 ^ 53) : (ofWhole n).isFinite = true := by
  have hintegral := isIntegral_ofWhole h
  rw [isIntegral, Bool.and_eq_true_iff] at hintegral
  exact hintegral.1

theorem unpack_neg (h : x.isFinite = true) : (-x).toModel.unpack = x.toModel.unpack.neg := by
  obtain ⟨hparts, -⟩ := unpack_rank (not_isNaN_of_isFinite h)
  have hfinite : x.toModel.unpack.isFinite = true := h
  show (Float.Model.pack x.toModel.unpack.neg).unpack = _
  cases hu : x.toModel.unpack with
  | notANumber | infinity =>
    rw [hu] at hfinite
    cases hfinite
  | zero s => cases s <;> rfl
  | finite s m e hm =>
    rw [hu] at hparts
    exact unpack_pack (s := -s) hparts

theorem isFinite_neg (h : x.isFinite = true) : (-x).isFinite = true := by
  have hx : x.toModel.unpack.isFinite = true := h
  show (-x).toModel.unpack.isFinite = true
  rw [unpack_neg h]
  cases hu : x.toModel.unpack with
  | notANumber | infinity =>
    rw [hu] at hx
    cases hx
  | zero | finite => rfl

theorem value_neg (h : x.isFinite = true) : value (-x) = -value x := by
  rw [value_eq_partsValue (isFinite_neg h), value_eq_partsValue h, unpack_neg h]
  cases x.toModel.unpack with
  | notANumber | infinity | zero => exact neg_zero.symm
  | finite s m e hm =>
    have hsign : (-s).apply 1 = -s.apply 1 := by cases s <;> rfl
    show ((-s).apply 1 : ℚ) * (m * 2 ^ e) = -(s.apply 1 * (m * 2 ^ e))
    rw [hsign]
    push_cast
    ring

end BandCanvas.Binary64
