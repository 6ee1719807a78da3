import BandCanvas.Proofs.Number.Nearest

namespace BandCanvas.Binary64

open Float.Model Float.Model.UnpackedFloat

variable {x y : Float} {m n : Nat} {e : Int}

theorem ofModel_pack_unpack (x : Float) : Float.ofModel (.pack x.toModel.unpack) = x :=
  Float.ofBits_toBits x

theorem nearest_zero (s : Sign) : Nearest 0 (.ofModel (.pack (.zero s))) := by
  have hzero : value (.ofModel (.pack (.zero s))) = 0 := by
    have hrank : rank (.ofModel (.pack (.zero s))) = 0 := by cases s <;> decide
    rw [value, hrank, valueAt_zero]
  have hnan : (Float.ofModel (.pack (.zero s))).isNaN = false := by cases s <;> decide
  rw [← hzero]
  exact .self hnan

theorem finite_cases (h : x.isFinite = true) :
    (∃ s, x.toModel.unpack = .zero s ∧ value x = 0) ∨
      ∃ s m e, ∃ hm : 0 < m, x.toModel.unpack = .finite s m e hm ∧ value x = s.apply 1 * (m * 2 ^ e) ∧
        (52 ≤ m.log2 ∨ e = -1074) := by
  have hfinite : x.toModel.unpack.isFinite = true := h
  have hvalue := value_eq_partsValue h
  obtain ⟨hparts, -⟩ := unpack_rank (not_isNaN_of_isFinite h)
  cases hu : x.toModel.unpack with
  | notANumber | infinity =>
    rw [hu] at hfinite
    cases hfinite
  | zero s =>
    rw [hu] at hvalue
    exact .inl ⟨s, rfl, hvalue⟩
  | finite s m e hm =>
    rw [hu] at hvalue hparts
    obtain ⟨hlt, hmin, hmax, hcase⟩ := hparts
    exact .inr ⟨s, m, e, hm, rfl, hvalue, hcase.imp_left (Nat.le_log2 hm.ne').2⟩

theorem nearest_exact (s : Sign) (he : 52 ≤ m.log2 ∨ e ≤ -1074) :
    Nearest (s.apply 1 * (m * 2 ^ e)) (.ofModel (.pack (roundWithAccuracy Format.binary64 s m e .exact))) :=
  nearest_roundWithAccuracy s he (stands_exact m)

theorem log2_mul_left (hm : 52 ≤ m.log2) (hn : 0 < n) : 52 ≤ (m * n).log2 := by
  have hne : m ≠ 0 := by
    rintro rfl
    rw [Nat.log2_zero] at hm
    omega
  rw [Nat.le_log2 (Nat.mul_ne_zero hne hn.ne')]
  exact Nat.le_mul_of_pos_right m hn |>.trans' ((Nat.le_log2 hne).1 hm)

theorem nearest_mul (hx : x.isFinite = true) (hy : y.isFinite = true) : Nearest (value x * value y) (x * y) := by
  show Nearest _ (.ofModel (.pack (UnpackedFloat.mul Format.binary64 x.toModel.unpack y.toModel.unpack)))
  rcases finite_cases hx with ⟨s, hux, hvx⟩ | ⟨s, m, e, hm, hux, hvx, hnx⟩
  · rcases finite_cases hy with ⟨t, huy, hvy⟩ | ⟨t, n, f, hn, huy, hvy, hny⟩
    · rw [hux, huy, hvx, zero_mul]
      exact nearest_zero (s * t)
    · rw [hux, huy, hvx, zero_mul]
      exact nearest_zero (s * t)
  · rcases finite_cases hy with ⟨t, huy, hvy⟩ | ⟨t, n, f, hn, huy, hvy, hny⟩
    · rw [hux, huy, hvy, mul_zero]
      exact nearest_zero (s * t)
    · have hlong : 52 ≤ (m * n).log2 ∨ e + f ≤ -1074 := by
        rcases hnx with hm52 | rfl
        · exact .inl (log2_mul_left hm52 hn)
        · rcases hny with hn52 | rfl
          · rw [Nat.mul_comm]
            exact .inl (log2_mul_left hn52 hm)
          · exact .inr (by decide)
      have hsign : (s * t).apply 1 = s.apply 1 * t.apply 1 := by cases s <;> cases t <;> rfl
      have hround := nearest_exact (s * t) hlong
      have hprod : value x * value y = (s * t).apply 1 * ((m * n : Nat) * 2 ^ (e + f)) := by
        rw [hvx, hvy, hsign, zpow_add₀ (by norm_num)]
        push_cast
        ring
      rw [hux, huy, hprod]
      exact hround

theorem rounded_mul (hx : x.isFinite = true) (hy : y.isFinite = true) : Rounded (value x * value y) (x * y) :=
  (nearest_mul hx hy).rounded

section Division

variable {f : Int}

theorem quotient_long (hm : 0 < m) (hn : 0 < n) {d : Int}
    (hd : d = min (e - f) (max ((m.log2 + 1 + e : Int) - (n.log2 + 1 + f) - 53) (-1074))) :
    52 ≤ (m <<< (e - f - d).toNat / n).log2 ∨ d ≤ -1074 := by
  by_cases hleast : d ≤ -1074
  · exact .inr hleast
  · left
    obtain ⟨k, hk⟩ : ∃ k : Nat, (e - f - d).toNat = k := ⟨_, rfl⟩
    have hplaces : 52 + (n.log2 + 1) ≤ m.log2 + k := by omega
    have hn' : n < 2 ^ (n.log2 + 1) := Nat.lt_log2_self
    have hbig : 2 ^ 52 * n ≤ m * 2 ^ k := by
      calc 2 ^ 52 * n ≤ 2 ^ 52 * 2 ^ (n.log2 + 1) := Nat.mul_le_mul_left _ hn'.le
        _ = 2 ^ (52 + (n.log2 + 1)) := (Nat.pow_add ..).symm
        _ ≤ 2 ^ (m.log2 + k) := Nat.pow_le_pow_right (by decide) hplaces
        _ = 2 ^ m.log2 * 2 ^ k := Nat.pow_add ..
        _ ≤ m * 2 ^ k := Nat.mul_le_mul_right _ (Nat.log2_self_le hm.ne')
    have hquot : 2 ^ 52 ≤ m * 2 ^ k / n := (Nat.le_div_iff_mul_le hn).2 hbig
    rw [hk, Nat.shiftLeft_eq]
    exact (Nat.le_log2 (by omega)).2 hquot

theorem nearest_divParts (s t : Sign) (hm : 0 < m) (hn : 0 < n) (e f : Int) :
    Nearest ((s / t).apply 1 * (m * 2 ^ e / (n * 2 ^ f)))
      (.ofModel (.pack (UnpackedFloat.div Format.binary64 (.finite s m e hm) (.finite t n f hn)))) := by
  obtain ⟨d, hd⟩ : ∃ d, d = min (e - f) (max ((m.log2 + 1 + e : Int) - (n.log2 + 1 + f) - 53) (-1074)) := ⟨_, rfl⟩
  have hlong := quotient_long hm hn hd
  obtain ⟨k, hk⟩ : ∃ k : Nat, (e - f - d).toNat = k := ⟨_, rfl⟩
  rw [hk, Nat.shiftLeft_eq] at hlong
  have hcore : divCore Format.binary64 m e n f = (m * 2 ^ k / n, d, accuracyOfFraction (m * 2 ^ k % n) n) := by
    simp only [divCore, targetExponent_eq, totalExponent, ← hd, hk, Nat.shiftLeft_eq]
  have hn0 : (n : ℚ) ≠ 0 := by exact_mod_cast hn.ne'
  have hscale : (2 : ℚ) ^ e = 2 ^ d * 2 ^ k * 2 ^ f := by
    rw [← zpow_natCast, ← zpow_add₀ (by norm_num), ← zpow_add₀ (by norm_num)]
    congr 1
    omega
  have hsum : (m : ℚ) * 2 ^ k = (m * 2 ^ k / n : Nat) * n + (m * 2 ^ k % n : Nat) := by
    exact_mod_cast (Nat.div_add_mod' (m * 2 ^ k) n).symm
  have hquot : (m * 2 ^ e / (n * 2 ^ f) : ℚ) = ((m * 2 ^ k / n : Nat) + (m * 2 ^ k % n : Nat) / n) * 2 ^ d := by
    rw [hscale]
    field_simp
    linear_combination hsum
  simp only [UnpackedFloat.div, hcore]
  rw [hquot]
  exact nearest_roundWithAccuracy (s / t) hlong (stands_fraction _ (Nat.mod_lt _ hn))

theorem nearest_div (hx : x.isFinite = true) (hy : y.isFinite = true) (hne : value y ≠ 0) :
    Nearest (value x / value y) (x / y) := by
  show Nearest _ (.ofModel (.pack (UnpackedFloat.div Format.binary64 x.toModel.unpack y.toModel.unpack)))
  rcases finite_cases hy with ⟨t, huy, hvy⟩ | ⟨t, n, f, hn, huy, hvy, -⟩
  · exact absurd hvy hne
  rcases finite_cases hx with ⟨s, hux, hvx⟩ | ⟨s, m, e, hm, hux, hvx, -⟩
  · rw [hux, huy, hvx, zero_div]
    exact nearest_zero (s / t)
  · have hsign : ((s / t).apply 1 : ℚ) = s.apply 1 / t.apply 1 := by
      have hprod : (s / t).apply 1 = s.apply 1 * t.apply 1 := by cases s <;> cases t <;> rfl
      have hinv : ((t.apply 1 : Int) : ℚ)⁻¹ = t.apply 1 := by cases t <;> norm_num [Sign.apply]
      rw [hprod, Int.cast_mul, div_eq_mul_inv, hinv]
    rw [hux, huy, hvx, hvy, mul_div_mul_comm, ← hsign]
    exact nearest_divParts s t hm hn e f

theorem rounded_div (hx : x.isFinite = true) (hy : y.isFinite = true) (hne : value y ≠ 0) :
    Rounded (value x / value y) (x / y) :=
  (nearest_div hx hy hne).rounded

end Division

section Sum

theorem nearest_round (s : Sign) (hm : 0 < m) :
    Nearest (s.apply 1 * (m * 2 ^ e)) (.ofModel (.pack (UnpackedFloat.round Format.binary64 s m e))) := by
  obtain ⟨k, hk⟩ : ∃ k : Nat, (e - max ((m.log2 : Int) + 1 + e - 53) (-1074)).toNat = k := ⟨_, rfl⟩
  have hlong : 52 ≤ (m * 2 ^ k).log2 ∨ e - k ≤ -1074 := by
    rw [log2_mul_two_pow hm.ne']
    omega
  have hsame : (m : ℚ) * 2 ^ e = (m * 2 ^ k : Nat) * 2 ^ (e - k) := by
    have hscale : (2 : ℚ) ^ e = 2 ^ k * 2 ^ (e - k) := by
      rw [← zpow_natCast, ← zpow_add₀ (by norm_num)]
      congr 1
      omega
    rw [hscale]
    push_cast
    ring
  rw [hsame]
  have hround := nearest_exact s hlong
  simp only [UnpackedFloat.round, targetExponent_eq, totalExponent, decreaseExponent, hk, Nat.shiftLeft_eq]
  exact hround

theorem nearest_normalize (n : Int) (e : Int) (zero : Sign) :
    Nearest (n * 2 ^ e) (.ofModel (.pack (UnpackedFloat.normalize Format.binary64 n e zero))) := by
  rcases Int.lt_trichotomy n 0 with hneg | rfl | hpos
  · have hround := nearest_round (e := e) .negative (show 0 < (-n).toNat by omega)
    have hn : (((-n).toNat : Nat) : ℚ) = -n := by
      rw [← Int.cast_natCast, Int.toNat_of_nonneg (by omega), Int.cast_neg]
    have hvalue : (n : ℚ) * 2 ^ e = Sign.negative.apply 1 * ((-n).toNat * 2 ^ e) := by
      rw [hn]
      show _ = ((-1 : Int) : ℚ) * _
      push_cast
      ring
    rw [UnpackedFloat.normalize, Int.compare_eq_lt.2 hneg, hvalue]
    exact hround
  · rw [UnpackedFloat.normalize, Int.compare_eq_eq.2 rfl, Int.cast_zero, zero_mul]
    exact nearest_zero zero
  · have hround := nearest_round (e := e) .positive (show 0 < n.toNat by omega)
    have hn : ((n.toNat : Nat) : ℚ) = n := by
      rw [← Int.cast_natCast, Int.toNat_of_nonneg hpos.le]
    have hvalue : (n : ℚ) * 2 ^ e = Sign.positive.apply 1 * (n.toNat * 2 ^ e) := by
      rw [hn]
      show _ = ((1 : Int) : ℚ) * _
      push_cast
      ring
    rw [UnpackedFloat.normalize, Int.compare_eq_gt.2 hpos, hvalue]
    exact hround

theorem decreaseExponent_eq {d : Int} (hd : d ≤ e) :
    decreaseExponent m e d = (m * 2 ^ (e - d).toNat, d) := by
  rw [decreaseExponent, Nat.shiftLeft_eq, Prod.mk.injEq]
  exact ⟨rfl, by omega⟩

theorem scaled_value (s : Sign) {d : Int} (hd : d ≤ e) :
    (s.apply 1 : ℚ) * (m * 2 ^ e) = s.apply (m * 2 ^ (e - d).toNat : Nat) * 2 ^ d := by
  obtain ⟨k, hk⟩ : ∃ k : Nat, (e - d).toNat = k := ⟨_, rfl⟩
  have hscale : (2 : ℚ) ^ e = 2 ^ k * 2 ^ d := by
    rw [← zpow_natCast, ← zpow_add₀ (by norm_num)]
    congr 1
    omega
  rw [hk, hscale]
  cases s <;> simp only [Sign.apply] <;> push_cast <;> ring

theorem nearest_add (hx : x.isFinite = true) (hy : y.isFinite = true) : Nearest (value x + value y) (x + y) := by
  show Nearest _ (.ofModel (.pack (UnpackedFloat.add Format.binary64 x.toModel.unpack y.toModel.unpack)))
  rcases finite_cases hx with ⟨s, hux, hvx⟩ | ⟨s, m, e, hm, hux, hvx, hnx⟩
  · rcases finite_cases hy with ⟨t, huy, hvy⟩ | ⟨t, n, f, hn, huy, hvy, hny⟩
    · rw [hux, huy, hvx, hvy, add_zero]
      simp only [UnpackedFloat.add]
      split
      · exact nearest_zero s
      · exact nearest_zero .positive
    · rw [hux, hvx, zero_add]
      have hsame : UnpackedFloat.add Format.binary64 (.zero s) y.toModel.unpack = y.toModel.unpack := by
        rw [huy]
        rfl
      rw [hsame, ofModel_pack_unpack]
      exact .self (not_isNaN_of_isFinite hy)
  · rcases finite_cases hy with ⟨t, huy, hvy⟩ | ⟨t, n, f, hn, huy, hvy, hny⟩
    · rw [huy, hvy, add_zero]
      have hsame : UnpackedFloat.add Format.binary64 x.toModel.unpack (.zero t) = x.toModel.unpack := by
        rw [hux]
        rfl
      rw [hsame, ofModel_pack_unpack]
      exact .self (not_isNaN_of_isFinite hx)
    · have hleft := decreaseExponent_eq (m := m) (min_le_left e f)
      have hright := decreaseExponent_eq (m := n) (min_le_right e f)
      rw [hux, huy, hvx, hvy, scaled_value s (min_le_left e f), scaled_value t (min_le_right e f), ← add_mul,
        ← Int.cast_add]
      simp only [UnpackedFloat.add, hleft, hright]
      exact nearest_normalize _ _ _

theorem rounded_add (hx : x.isFinite = true) (hy : y.isFinite = true) : Rounded (value x + value y) (x + y) :=
  (nearest_add hx hy).rounded

theorem sub_eq (hx : x.isFinite = true) (hy : y.isFinite = true) : x - y = x + -y := by
  have hparts : UnpackedFloat.sub Format.binary64 x.toModel.unpack y.toModel.unpack =
      UnpackedFloat.add Format.binary64 x.toModel.unpack (-y).toModel.unpack := by
    rw [unpack_neg hy]
    rcases finite_cases hx with ⟨s, hux, -⟩ | ⟨s, m, e, hm, hux, -, -⟩
    · rcases finite_cases hy with ⟨t, huy, -⟩ | ⟨t, n, f, hn, huy, -, -⟩
      · rw [hux, huy]
        rfl
      · rw [hux, huy]
        rfl
    · rcases finite_cases hy with ⟨t, huy, -⟩ | ⟨t, n, f, hn, huy, -, -⟩
      · rw [hux, huy]
        rfl
      · have hsign (k : Int) : (-t).apply k = -t.apply k := by
          cases t with
          | negative => exact (Int.neg_neg k).symm
          | positive => rfl
        rw [hux, huy]
        simp only [UnpackedFloat.sub, UnpackedFloat.neg, UnpackedFloat.add, hsign, Int.sub_eq_add_neg]
  show Float.ofModel (.pack (UnpackedFloat.sub Format.binary64 x.toModel.unpack y.toModel.unpack)) =
    .ofModel (.pack (UnpackedFloat.add Format.binary64 x.toModel.unpack (-y).toModel.unpack))
  rw [hparts]

theorem rounded_sub (hx : x.isFinite = true) (hy : y.isFinite = true) : Rounded (value x - value y) (x - y) := by
  have hsum := rounded_add hx (isFinite_neg hy)
  rw [value_neg hy, ← sub_eq_add_neg] at hsum
  rwa [sub_eq hx hy]

end Sum

end BandCanvas.Binary64
