import BandCanvas.Proofs.Number.Conversion

namespace BandCanvas.Binary64

/-- A number with the value `i / 2`. Two numbers are zero. -/
structure Halves (x : Float) (i : Int) : Prop where
  isFinite : x.isFinite = true
  value_eq : value x = i / 2

variable {x y : Float} {q : ℚ} {i j a : Int} {n : Nat}

theorem placeValue_half (h : n < 2 ^ 53) : ∃ k ≤ topPlace, placeValue k = n / 2 := by
  rcases Nat.eq_zero_or_pos n with rfl | hn
  · refine ⟨0, Nat.zero_le _, ?_⟩
    rw [placeValue_zero, Nat.cast_zero, zero_div]
  · have hlog := log2_le_of_lt hn.ne' h
    obtain ⟨hlow, hhigh⟩ := (Nat.log2_eq_iff (Nat.mul_pos hn (Nat.two_pow_pos (52 - n.log2))).ne').1
      (log2_scaled hn.ne' h)
    have he : ((1021 + n.log2 : Nat) : Int) - 1074 = -((52 - n.log2 : Nat) : Int) - 1 := by omega
    refine ⟨(1021 + n.log2) * 2 ^ 52 + n * 2 ^ (52 - n.log2), ?_, ?_⟩
    · rw [topPlace]
      omega
    · rw [placeValue_eq hhigh.le (.inl hlow), he, zpow_sub_one₀ (by norm_num), zpow_neg, zpow_natCast]
      push_cast
      field_simp

theorem valueAt_half (h : i.natAbs < 2 ^ 53) : ∃ r : Int, r.natAbs ≤ topPlace ∧ valueAt r = i / 2 := by
  obtain ⟨k, hk, hvalue⟩ := placeValue_half h
  rcases Int.natAbs_eq i with hi | hi
  · refine ⟨k, hk, ?_⟩
    rw [valueAt_natCast, hvalue, ← Int.cast_natCast, ← hi]
  · refine ⟨-k, by omega, ?_⟩
    have hcast : (i : ℚ) = -(i.natAbs : ℚ) := by
      rw [← Int.cast_natCast, ← Int.cast_neg, ← hi]
    rw [valueAt_neg, valueAt_natCast, hvalue, hcast, neg_div]

/-- A half that is not too large is not changed by rounding. -/
theorem Rounded.halves (h : Rounded q x) (hq : q = i / 2) (hi : i.natAbs < 2 ^ 53) : Halves x i := by
  obtain ⟨r, hr, hvalue⟩ := valueAt_half hi
  constructor
  · apply h.isFinite_of_abs_le
    have habs : |(i : ℚ)| ≤ 2 ^ 53 := by
      rw [← Int.cast_abs, Int.abs_eq_natAbs]
      exact_mod_cast hi.le
    calc |q| = |(i : ℚ)| / 2 := by rw [hq, abs_div, abs_two]
      _ ≤ 2 ^ 64 := by linarith
      _ ≤ _ := wordLimit_le
  · rw [h.value_eq_of_place r hr (hvalue.trans hq.symm), hq]

theorem halves_toFloat (h : n < 2 ^ 52) : Halves n.toFloat (2 * n) := by
  obtain ⟨hfinite, hvalue⟩ := value_toFloat (n := n) (by omega)
  refine ⟨hfinite, ?_⟩
  rw [hvalue]
  push_cast
  ring

theorem halves_zero : Halves 0 0 :=
  ⟨by decide, by rw [value_zero, Int.cast_zero, zero_div]⟩

theorem halves_one : Halves 1 2 :=
  ⟨by decide, by rw [value_one]; norm_num⟩

theorem halves_two : Halves 2 4 :=
  halves_toFloat (n := 2) (by decide)

theorem halves_half : Halves 0.5 1 := by
  have hround := rounded_div halves_one.isFinite halves_two.isFinite (by rw [halves_two.value_eq]; norm_num)
  have hsame : (1 : Float) / 2 = 0.5 := by decide +kernel
  rw [halves_one.value_eq, halves_two.value_eq, hsame] at hround
  exact hround.halves (by norm_num) (by decide)

namespace Halves

theorem congr (h : Halves x i) (hij : i = j) : Halves x j :=
  hij ▸ h

theorem not_isNaN (h : Halves x i) : x.isNaN = false :=
  not_isNaN_of_isFinite h.isFinite

section Arithmetic

theorem neg (h : Halves x i) : Halves (-x) (-i) := by
  refine ⟨isFinite_neg h.isFinite, ?_⟩
  rw [value_neg h.isFinite, h.value_eq]
  push_cast
  ring

theorem add (hx : Halves x i) (hy : Halves y j) (h : (i + j).natAbs < 2 ^ 53) : Halves (x + y) (i + j) := by
  apply (rounded_add hx.isFinite hy.isFinite).halves _ h
  rw [hx.value_eq, hy.value_eq]
  push_cast
  ring

theorem sub (hx : Halves x i) (hy : Halves y j) (h : (i - j).natAbs < 2 ^ 53) : Halves (x - y) (i - j) := by
  apply (rounded_sub hx.isFinite hy.isFinite).halves _ h
  rw [hx.value_eq, hy.value_eq]
  push_cast
  ring

theorem mul (hx : Halves x (2 * a)) (hy : Halves y j) (h : (a * j).natAbs < 2 ^ 53) : Halves (x * y) (a * j) := by
  apply (rounded_mul hx.isFinite hy.isFinite).halves _ h
  rw [hx.value_eq, hy.value_eq]
  push_cast
  ring

theorem mul_of_zero (hx : x.isFinite = true) (hy : Halves y 0) : Halves (x * y) 0 := by
  apply (rounded_mul hx hy.isFinite).halves _ (by decide)
  rw [hy.value_eq, Int.cast_zero, zero_div, mul_zero]

theorem rounded_div (hx : Halves x i) (hy : Halves y j) (hj : j ≠ 0) : Rounded ((i : ℚ) / j) (x / y) := by
  have hj' : (j : ℚ) ≠ 0 := by exact_mod_cast hj
  have hne : value y ≠ 0 := by
    rw [hy.value_eq]
    exact div_ne_zero hj' two_ne_zero
  have hround := Binary64.rounded_div hx.isFinite hy.isFinite hne
  rwa [hx.value_eq, hy.value_eq, div_div_div_cancel_right₀ two_ne_zero] at hround

theorem div (hx : Halves x (a * j)) (hy : Halves y j) (hj : j ≠ 0) (h : (2 * a).natAbs < 2 ^ 53) :
    Halves (x / y) (2 * a) := by
  have hj' : (j : ℚ) ≠ 0 := by exact_mod_cast hj
  apply (hx.rounded_div hy hj).halves _ h
  push_cast
  field_simp

theorem div_two (hx : Halves x (2 * i)) (h : i.natAbs < 2 ^ 53) : Halves (x / 2) i := by
  apply (hx.rounded_div halves_two (by decide)).halves _ h
  push_cast
  ring

theorem isFinite_div (hx : Halves x i) (hy : Halves y j) (hi : 0 ≤ i) (hij : i < j) :
    (x / y).isFinite = true := by
  apply (hx.rounded_div hy (by omega)).isFinite_of_abs_le
  have hi' : (0 : ℚ) ≤ i := by exact_mod_cast hi
  have hij' : (i : ℚ) < j := by exact_mod_cast hij
  have hone : (i : ℚ) / j ≤ 1 := div_le_one_of_le₀ hij'.le (by linarith)
  rw [abs_of_nonneg (div_nonneg hi' (by linarith))]
  calc (i : ℚ) / j ≤ 1 := hone
    _ ≤ 2 ^ 64 := by norm_num
    _ ≤ _ := wordLimit_le

end Arithmetic

section Order

theorem lt_iff (hx : Halves x i) (hy : Halves y j) : x < y ↔ i < j := by
  rw [value_lt_iff hx.not_isNaN hy.not_isNaN, hx.value_eq, hy.value_eq, div_lt_div_iff_of_pos_right two_pos,
    Int.cast_lt]

theorem le_iff (hx : Halves x i) (hy : Halves y j) : x ≤ y ↔ i ≤ j := by
  rw [value_le_iff hx.not_isNaN hy.not_isNaN, hx.value_eq, hy.value_eq, div_le_div_iff_of_pos_right two_pos,
    Int.cast_le]

theorem beq_iff (hx : Halves x i) (hy : Halves y j) : (x == y) = true ↔ i = j := by
  rw [beq_iff_value hx.not_isNaN hy.not_isNaN, hx.value_eq, hy.value_eq, div_left_inj' two_ne_zero, Int.cast_inj]

theorem rank_eq (hx : Halves x i) (hy : Halves y i) : rank x = rank y := by
  apply valueAt_strictMono.injective
  show value x = value y
  rw [hx.value_eq, hy.value_eq]

theorem eq_zero (h : Halves x 0) : x = 0 ∨ x = -0 := by
  rcases finite_cases h.isFinite with ⟨s, hu, -⟩ | ⟨s, m, e, hm, -, hvalue, -⟩
  · rw [← ofModel_pack_unpack x, hu]
    cases s with
    | positive => exact .inl (by decide)
    | negative => exact .inr (by decide)
  · have hm' : (m : ℚ) * 2 ^ e ≠ 0 := by positivity
    have hs : ((s.apply 1 : Int) : ℚ) ≠ 0 := by cases s <;> decide
    rw [h.value_eq, Int.cast_zero, zero_div] at hvalue
    exact absurd hvalue.symm (mul_ne_zero hs hm')

/-- A number that is not zero is told by its value. -/
theorem ext (hx : Halves x i) (hy : Halves y i) (hi : i ≠ 0) : x = y := by
  have hrank := hx.rank_eq hy
  apply ext_rank _ hrank
  rcases Int.lt_or_gt_of_ne hi with hneg | hpos
  · have hlt := (lt_iff_rank hx.not_isNaN halves_zero.not_isNaN).1 ((hx.lt_iff halves_zero).2 hneg)
    rw [rank_zero] at hlt
    rw [negative_of_rank_neg hlt, negative_of_rank_neg (hrank ▸ hlt)]
  · have hlt := rank_pos ((halves_zero.lt_iff hx).2 hpos)
    rw [negative_of_rank hlt, negative_of_rank (hrank ▸ hlt)]

theorem eq_ofWhole (h : Halves x (2 * n)) (hn : 0 < n) (hlt : n < 2 ^ 52) : x = ofWhole n := by
  have hwhole := halves_toFloat hlt
  rw [toFloat_eq_ofScientific, ofScientific_eq_ofWhole (by omega)] at hwhole
  exact h.ext hwhole (by omega)

end Order

section Integers

theorem toNat64_eq (h : Halves x (2 * n)) (hlt : n < 2 ^ 52) : toNat64 x = n := by
  rcases Nat.eq_zero_or_pos n with rfl | hn
  · rcases h.eq_zero with rfl | rfl <;> decide
  · rw [h.eq_ofWhole hn hlt, toNat64_ofWhole (by omega)]

theorem toInt32_eq (h : Halves x (2 * n)) (hlt : n < 2 ^ 31) : toInt32 x = n := by
  rcases Nat.eq_zero_or_pos n with rfl | hn
  · rcases h.eq_zero with rfl | rfl <;> decide
  · have hnat : (ofWhole n).toUInt64.toNat = n := toNat64_ofWhole (by omega)
    have hneg : ¬ ofWhole n < 0 := by
      rw [← h.eq_ofWhole hn (by omega), h.lt_iff halves_zero]
      omega
    rw [h.eq_ofWhole hn (by omega), toInt32, toIntIn, abs_ofWhole (by omega), hnat, if_neg hneg]
    omega

theorem toNat32_eq (h : Halves x (2 * n)) (hlt : n < 2 ^ 32) : toNat32 x = n := by
  rcases Nat.eq_zero_or_pos n with rfl | hn
  · rcases h.eq_zero with rfl | rfl <;> decide
  · have hlog := (Nat.log2_lt hn.ne').2 hlt
    have hk : (-((n.log2 : Int) - 52)).toNat = 52 - n.log2 := by omega
    have hparts := (hasParts_ofWhole hn.ne' (show n < 2 ^ 53 by omega)).toNat32_eq (by omega)
    rw [hk, Nat.mul_div_cancel _ (Nat.two_pow_pos _)] at hparts
    rw [h.eq_ofWhole hn (by omega), hparts hlt]

end Integers

end Halves

theorem halves_trunc (h : Halves x i) (hi : 0 ≤ i) (hlt : i < 2 ^ 53) : Halves (trunc x) (2 * (i / 2)) := by
  rcases hi.eq_or_lt with rfl | hpos
  · have hzero : trunc x = 0 ∨ trunc x = -0 := by
      rcases h.eq_zero with rfl | rfl
      · exact .inl (by decide)
      · exact .inr (by decide)
    rcases hzero with hzero | hzero <;> rw [hzero]
    · exact halves_zero
    · exact halves_zero.neg
  · have hx : 0 < x := (halves_zero.lt_iff h).2 hpos
    obtain ⟨m, e, hparts⟩ : ∃ m e, HasParts x m e := by
      apply (positive_cases hx).resolve_left
      rintro rfl
      exact absurd h.isFinite (by decide)
    have hlarge : Halves (2 ^ 52 : Nat).toFloat (2 ^ 53 : Nat) := by
      obtain ⟨hfinite, hvalue⟩ := value_toFloat (n := 2 ^ 52) (by decide)
      refine ⟨hfinite, ?_⟩
      rw [hvalue]
      norm_num
    have he : e < 0 := by
      apply hparts.lt_iff.1
      exact (h.lt_iff hlarge).2 hlt
    -- the significand holds the half below its point
    obtain ⟨k, hk⟩ : ∃ k : Nat, e = -k := ⟨(-e).toNat, by omega⟩
    have hscaled : (m : Int) * 2 = 2 ^ k * i := by
      have hvalue := h.value_eq
      rw [hparts.value_eq, hk, zpow_neg, zpow_natCast] at hvalue
      field_simp at hvalue
      exact_mod_cast hvalue
    have hquot : ((m / 2 ^ (-e).toNat : Nat) : Int) = i / 2 := by
      have hk' : (-e).toNat = k := by omega
      have hpow : (0 : Int) < 2 ^ k := by positivity
      rw [hk', Int.natCast_ediv, Nat.cast_pow, Nat.cast_two, ← Int.mul_ediv_mul_of_pos_left _ _ two_pos, hscaled,
        Int.mul_ediv_mul_of_pos _ _ hpow]
    have hq := hparts.quotient_lt he
    have hwhole := halves_toFloat hq
    rw [toFloat_eq_ofScientific, ofScientific_eq_ofWhole (by omega), hquot] at hwhole
    rw [hparts.trunc_of_neg he]
    exact hwhole

theorem halves_floor (h : Halves x i) (hi : 0 ≤ i) (hlt : i < 2 ^ 53) : Halves (floor x) (2 * (i / 2)) := by
  have htrunc := halves_trunc h hi hlt
  have hle : ¬ x < trunc x := by
    rw [h.lt_iff htrunc]
    omega
  show Halves (if x < trunc x then trunc x - 1 else trunc x) _
  rwa [if_neg hle]

theorem halves_ceil (h : Halves x i) (hi : -1 ≤ i) (hlt : i < 2 ^ 53 - 1) :
    Halves (ceil x) (2 * ((i + 1) / 2)) := by
  rcases hi.eq_or_lt with rfl | hnonneg
  · have hsame : ceil (-0.5) = -0 := by decide
    rw [h.ext halves_half.neg (by decide), hsame]
    exact halves_zero.neg
  · have htrunc := halves_trunc h (by omega) (by omega)
    show Halves (if trunc x < x then trunc x + 1 else trunc x) _
    split
    next hodd =>
      rw [htrunc.lt_iff h] at hodd
      have hnext := htrunc.add halves_one (by omega)
      rwa [show 2 * (i / 2) + 2 = 2 * ((i + 1) / 2) by omega] at hnext
    next heven =>
      rw [htrunc.lt_iff h] at heven
      rwa [show 2 * (i / 2) = 2 * ((i + 1) / 2) by omega] at htrunc

theorem halves_round (h : Halves x (2 * n)) (hlt : n < 2 ^ 52) : Halves (round x) (2 * n) := by
  have htrunc := (halves_trunc h (by omega) (by omega)).congr (j := 2 * n) (by omega)
  have hrest := (h.sub htrunc (by omega)).congr (Int.sub_self _)
  have hsmall : ¬ (x - trunc x).abs ≥ 0.5 := by
    rcases hrest.eq_zero with hzero | hzero <;> rw [hzero] <;> decide
  show Halves (if (x - trunc x).abs ≥ 0.5 then _ else trunc x) _
  rwa [if_neg hsmall]

theorem lt_infinity (h : x.isFinite = true) : x < infinity ∧ -infinity < x := by
  have hx := not_isNaN_of_isFinite h
  have htop : rank infinity = topPlace := by decide
  have hbottom : rank (-infinity) = -topPlace := by decide
  have hrank := (isFinite_iff_rank hx).1 h
  rw [lt_iff_rank hx (by decide), lt_iff_rank (by decide) hx, htop, hbottom]
  omega

theorem least_infinity (h : x.isFinite = true) : least infinity x = x := by
  rw [least, decide_eq_true (lt_infinity h).1, Bool.or_true]
  rfl

theorem greatest_infinity (h : x.isFinite = true) : greatest (-infinity) x = x := by
  rw [greatest, decide_eq_true (lt_infinity h).2, Bool.or_true]
  rfl

theorem halves_least (hx : Halves x i) (hy : Halves y j) : Halves (least x y) (min i j) := by
  rw [least, hx.not_isNaN, Bool.false_or]
  split
  next hlt =>
    rw [decide_eq_true_iff, hy.lt_iff hx] at hlt
    rwa [min_eq_right hlt.le]
  next hle =>
    rw [decide_eq_true_iff, hy.lt_iff hx] at hle
    rwa [min_eq_left (by omega)]

theorem halves_greatest (hx : Halves x i) (hy : Halves y j) : Halves (greatest x y) (max i j) := by
  rw [greatest, hx.not_isNaN, Bool.false_or]
  split
  next hlt =>
    rw [decide_eq_true_iff, hx.lt_iff hy] at hlt
    rwa [max_eq_right hlt.le]
  next hle =>
    rw [decide_eq_true_iff, hx.lt_iff hy] at hle
    rwa [max_eq_left (by omega)]

theorem totalLE_of_lt (hx : Halves x i) (hy : Halves y j) (hlt : i < j) :
    totalLE x y = true ∧ totalLE y x = false := by
  have hnot : totalLE y x = false := by
    apply Bool.eq_false_of_not_eq_true
    intro hle
    have hrank := rank_le_of_totalLE hle
    rw [← le_iff_rank hy.not_isNaN hx.not_isNaN, hy.le_iff hx] at hrank
    omega
  refine ⟨?_, hnot⟩
  rw [totalLE, decide_eq_false_iff_not] at hnot
  rw [totalLE, decide_eq_true_iff]
  omega

section Counts

open Float.Model

variable {u : UnpackedFloat}

theorem toInt_nonpos (hu : Unpacked u) (h : partsRank u ≤ 0) (hi : Int) : u.toInt 0 hi ≤ 0 := by
  cases u with
  | infinity s =>
    cases s with
    | positive => exact absurd h (by decide)
    | negative => exact Int.le_refl 0
  | notANumber => exact Int.le_refl 0
  | zero s => exact Int.le_refl 0
  | finite s m e hm =>
    cases s with
    | positive =>
      obtain ⟨hpos, -⟩ := magnitude_bounds hu
      exact absurd h (not_le.2 hpos)
    | negative => exact Int.neg_nonpos_of_nonneg (Int.natCast_nonneg _)

theorem toNat32_eq_zero (h : x.isNaN = true ∨ x ≤ 0) : toNat32 x = 0 := by
  have hint : x.toModel.unpack.toInt 0 (UInt32.size - 1) ≤ 0 := by
    rcases h with hnan | hle
    · have hunpack : x.toModel.unpack = .notANumber := by
        change x.toModel.unpack.isNaN = true at hnan
        cases hu : x.toModel.unpack with
        | notANumber => rfl
        | _ => rw [hu] at hnan; cases hnan
      rw [hunpack]
      exact Int.le_refl 0
    · obtain ⟨hnan, hnan'⟩ := not_isNaN_of_le hle
      obtain ⟨hunpacked, hrank⟩ := unpack_rank hnan
      rw [le_iff_rank hnan hnan', rank_zero, ← hrank] at hle
      exact toInt_nonpos hunpacked hle _
  show (UInt32.ofNatClamp (x.toModel.unpack.toInt 0 (UInt32.size - 1)).toNat).toNat = 0
  rw [Int.toNat_of_nonpos hint]
  rfl

/-- What is not as large as a count is cut off to less. -/
theorem toNat32_lt (hn : 0 < n) (h : ¬ n.toFloat ≤ x) : toNat32 x < n := by
  rcases Nat.lt_or_ge n (2 ^ 32) with hlt | hge
  · obtain ⟨hfinite, hvalue⟩ := value_toFloat (n := n) (by omega)
    have hnan := not_isNaN_of_isFinite hfinite
    cases hx : x.isNaN with
    | true => rwa [toNat32_eq_zero (.inl hx)]
    | false =>
      rcases le_or_lt hx (by decide : (0 : Float).isNaN = false) with hle | hpos
      · rwa [toNat32_eq_zero (.inr hle)]
      rcases positive_cases hpos with rfl | ⟨m, e, hparts⟩
      · exact absurd (le_of_lt (lt_infinity hfinite).1) h
      have hless := (le_or_lt hnan hx).resolve_left h
      rw [value_lt_iff hx hnan, hvalue, hparts.value_eq] at hless
      obtain ⟨-, -, -, hcase⟩ := hparts.unpacked
      have he : e < 0 := by
        by_contra hnonneg
        have hlong : 2 ^ 52 ≤ m := hcase.resolve_right (by omega)
        have hone : (1 : ℚ) ≤ 2 ^ e := one_le_zpow₀ (by norm_num) (by omega)
        have hm : (2 ^ 52 : ℚ) ≤ m := by exact_mod_cast hlong
        have hn' : (n : ℚ) < 2 ^ 32 := by exact_mod_cast hlt
        nlinarith
      have hquotient : m / 2 ^ (-e).toNat < n := by
        obtain ⟨k, rfl⟩ : ∃ k : Nat, e = -k := ⟨(-e).toNat, by omega⟩
        have hk : (-(-(k : Int))).toNat = k := by omega
        rw [hk, Nat.div_lt_iff_lt_mul (Nat.two_pow_pos k)]
        rw [zpow_neg, zpow_natCast, ← div_eq_mul_inv, div_lt_iff₀ (by positivity)] at hless
        exact_mod_cast hless
      rwa [hparts.toNat32_eq he (hquotient.trans hlt)]
  · exact (UInt32.toNat_lt _).trans_le hge

end Counts

end BandCanvas.Binary64
