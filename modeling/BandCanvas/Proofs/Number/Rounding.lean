import BandCanvas.Proofs.Number.Value

namespace BandCanvas.Binary64

open Float.Model Float.Model.UnpackedFloat

/-- A place next to `q`: whatever place is on one side of `q` is on that side of `p`, or is `p`. -/
structure Near (q : ℚ) (p : Int) : Prop where
  le_place (r : Int) (hr : r.natAbs ≤ topPlace) (h : valueAt r ≤ q) : r ≤ p
  place_le (r : Int) (hr : r.natAbs ≤ topPlace) (h : q ≤ valueAt r) : p ≤ r

/-- A number that `q` may be rounded to. -/
structure Rounded (q : ℚ) (x : Float) : Prop extends Near q (rank x) where
  not_isNaN : x.isNaN = false

section Places

variable {q : ℚ} {f n t : Nat}

/-- A number is put into the gap of the grid that the exact value is in, and on the grid if the value is. -/
theorem place_bracket (hlow : f * 2 ^ ((t : Int) - 1074) ≤ q) (hhigh : q < (f + 1) * 2 ^ ((t : Int) - 1074))
    (hn : n = f ∨ n = f + 1 ∧ q ≠ f * 2 ^ ((t : Int) - 1074)) (hf : f < 2 ^ 53) (hnormal : 2 ^ 52 ≤ f ∨ t = 0)
    (k : Nat) : (placeValue k ≤ q → k ≤ t * 2 ^ 52 + n) ∧ (q ≤ placeValue k → t * 2 ^ 52 + n ≤ k) := by
  have hbelow : placeValue (t * 2 ^ 52 + f) ≤ q := by
    rw [placeValue_eq hf.le hnormal]
    exact hlow
  have habove : q < placeValue (t * 2 ^ 52 + (f + 1)) := by
    rw [placeValue_eq (by omega) (by omega)]
    push_cast
    exact hhigh
  constructor
  · intro hk
    have hlt := placeValue_strictMono.lt_iff_lt.1 (lt_of_le_of_lt hk habove)
    omega
  · intro hk
    rcases hn with rfl | ⟨rfl, hne⟩
    · exact placeValue_strictMono.le_iff_le.1 (hbelow.trans hk)
    · have hstrict : placeValue (t * 2 ^ 52 + f) < q := by
        apply lt_of_le_of_ne hbelow
        rw [placeValue_eq hf.le hnormal]
        exact hne.symm
      exact placeValue_strictMono.lt_iff_lt.1 (lt_of_lt_of_le hstrict hk)

end Places

namespace Near

variable {q : ℚ} {p : Int}

theorem of_place {p : Nat} (hq : 0 ≤ q) (hplace : ∀ k, (placeValue k ≤ q → k ≤ p) ∧ (q ≤ placeValue k → p ≤ k)) :
    Near q (min p topPlace : Nat) := by
  refine ⟨fun r hr hle => ?_, fun r hr hle => ?_⟩
  · rcases Int.lt_or_le r 0 with hneg | hnonneg
    · omega
    · obtain ⟨k, rfl⟩ := Int.eq_ofNat_of_zero_le hnonneg
      rw [valueAt_natCast] at hle
      have := (hplace k).1 hle
      omega
  · rcases Int.lt_or_le r 0 with hneg | hnonneg
    · have := valueAt_strictMono hneg
      rw [valueAt_zero] at this
      exact absurd hle (by linarith)
    · obtain ⟨k, rfl⟩ := Int.eq_ofNat_of_zero_le hnonneg
      rw [valueAt_natCast] at hle
      have := (hplace k).2 hle
      omega

end Near

namespace Rounded

variable {q : ℚ} {x y z : Float}

theorem natAbs_rank_le (hx : x.isNaN = false) : (rank x).natAbs ≤ topPlace := by
  obtain ⟨hparts, hrank⟩ := unpack_rank hx
  rw [← hrank]
  cases hu : x.toModel.unpack with
  | notANumber | zero => exact Nat.zero_le _
  | infinity s => cases s <;> exact Nat.le_refl _
  | finite s m e hm =>
    rw [hu] at hparts
    obtain ⟨hpos, hlt⟩ := magnitude_bounds hparts
    simp only [partsRank, topPlace]
    cases s <;> simp only [Sign.apply] <;> omega

theorem self (hx : x.isNaN = false) : Rounded (value x) x where
  le_place _ _ h := valueAt_strictMono.le_iff_le.1 h
  place_le _ _ h := valueAt_strictMono.le_iff_le.1 h
  not_isNaN := hx

theorem value_le (h : Rounded q x) (hy : y.isNaN = false) (hle : value y ≤ q) : value y ≤ value x :=
  valueAt_strictMono.monotone (h.le_place _ (natAbs_rank_le hy) hle)

theorem le_value (h : Rounded q x) (hy : y.isNaN = false) (hle : q ≤ value y) : value x ≤ value y :=
  valueAt_strictMono.monotone (h.place_le _ (natAbs_rank_le hy) hle)

theorem value_eq_of_place (h : Rounded q x) (r : Int) (hr : r.natAbs ≤ topPlace) (hq : valueAt r = q) :
    value x = q := by
  have hrank : rank x = r := le_antisymm (h.place_le r hr hq.ge) (h.le_place r hr hq.le)
  rw [value, hrank, hq]

theorem isFinite (h : Rounded q x) (hy : y.isFinite = true) (hz : z.isFinite = true) (hlow : value y ≤ q)
    (hhigh : q ≤ value z) : x.isFinite = true := by
  have hny := not_isNaN_of_isFinite hy
  have hnz := not_isNaN_of_isFinite hz
  have hbelow := h.le_place _ (natAbs_rank_le hny) hlow
  have habove := h.place_le _ (natAbs_rank_le hnz) hhigh
  rw [isFinite_iff_rank hny] at hy
  rw [isFinite_iff_rank hnz] at hz
  rw [isFinite_iff_rank h.not_isNaN]
  omega

end Rounded

section RoundWithAccuracy

variable {m n : Nat} {e t : Int} {s : Sign} {acc : Accuracy} {q : ℚ}

theorem roundedMantissa_cases (em : ExtendedMantissa) :
    em.roundedMantissa = em.mantissa ∨ em.roundedMantissa = em.mantissa + 1 := by
  obtain ⟨m, r, s⟩ := em
  cases r with
  | false => cases s <;> exact .inl rfl
  | true =>
    cases s with
    | false =>
      show m + m % 2 = m ∨ m + m % 2 = m + 1
      omega
    | true => exact .inr rfl

theorem mantissa_ofMantissaAndAccuracy (m : Nat) (acc : Accuracy) :
    (ExtendedMantissa.ofMantissaAndAccuracy m acc).mantissa = m := by
  cases acc with
  | exact => rfl
  | inexact o => cases o <;> rfl

/-- A significand that is rounded up to the next power of two is moved once more. -/
theorem shiftToTargetExponent_rounded (hn : n ≤ 2 ^ 53) (ht : -1074 ≤ t) :
    shiftToTargetExponent Format.binary64 n t .exact =
      if n < 2 ^ 53 then (⟨n, false, false⟩, t) else (⟨2 ^ 52, false, false⟩, t + 1) := by
  rw [shiftToTargetExponent, targetExponent_eq, totalExponent]
  split
  next hlt =>
    have hlog : n.log2 ≤ 52 := by
      rcases Nat.eq_zero_or_pos n with rfl | hpos
      · exact Nat.zero_le _
      · exact log2_le_of_lt hpos.ne' hlt
    have hk : (max ((n.log2 : Int) + 1 + t - 53) (-1074) - t).toNat = 0 := by omega
    rw [shiftToExponent, hk]
    simp only [Int.ofNat_zero, Int.add_zero]
    rfl
  next hge =>
    obtain rfl : n = 2 ^ 53 := by omega
    have hlog : (2 ^ 53 : Nat).log2 = 53 := Nat.log2_two_pow
    have hmax : max (((2 ^ 53 : Nat).log2 : Int) + 1 + t - 53) (-1074) = t + (1 : Nat) := by omega
    have hpow : (2 : Nat) ^ 53 = 2 ^ 52 * 2 ^ 1 := by norm_num
    rw [hmax, hpow, shiftToExponent_exact (2 ^ 52) 1 rfl]
    rfl

theorem rank_pack (s : Sign) (hm : 0 < m) (hlt : m < 2 ^ 53) (ht : -1074 ≤ t) (hnormal : 2 ^ 52 ≤ m ∨ t = -1074) :
    (Float.ofModel (.pack (.finite s m t hm))).isNaN = false ∧
      rank (.ofModel (.pack (.finite s m t hm))) =
        s.apply (min ((t + 1074).toNat * 2 ^ 52 + m) topPlace : Nat) := by
  rcases Int.lt_or_le 971 t with hlarge | hle
  · have hsame : Float.ofModel (.pack (.finite s m t hm)) = .ofModel (.pack (.infinity s)) := by
      rw [Float.Model.pack.eq_1 (.finite s m t hm)]
      simp only [pack_large hlarge]
      rfl
    have hmin : min ((t + 1074).toNat * 2 ^ 52 + m) topPlace = topPlace := by
      simp only [topPlace]
      omega
    rw [hsame, hmin]
    cases s <;> decide
  · have hunpacked : Unpacked (.finite s m t hm) := ⟨hlt, ht, hle, hnormal⟩
    have hunpack : (Float.ofModel (.pack (.finite s m t hm))).toModel.unpack = .finite s m t hm :=
      unpack_pack hunpacked
    have hnan : (Float.ofModel (.pack (.finite s m t hm))).isNaN = false := by
      show (Float.ofModel (.pack (.finite s m t hm))).toModel.unpack.isNaN = false
      rw [hunpack]
      rfl
    refine ⟨hnan, ?_⟩
    rw [← (unpack_rank hnan).2, hunpack, partsRank]
    congr 1
    simp only [topPlace]
    omega

theorem dropped_bounds (m k : Nat) (e : Int) :
    (m / 2 ^ k : Nat) * (2 : ℚ) ^ (e + k) ≤ m * 2 ^ e ∧
      ((m : ℚ) + 1) * 2 ^ e ≤ ((m / 2 ^ k : Nat) + 1) * 2 ^ (e + k) := by
  have hgrid : (2 : ℚ) ^ (e + k) = 2 ^ k * 2 ^ e := by
    rw [zpow_add₀ (by norm_num), zpow_natCast, mul_comm]
  have hpos : (0 : ℚ) < 2 ^ e := by positivity
  have hbelow : m / 2 ^ k * 2 ^ k ≤ m := Nat.div_mul_le_self m (2 ^ k)
  have habove : m + 1 ≤ (m / 2 ^ k + 1) * 2 ^ k := Nat.lt_div_mul_add (Nat.two_pow_pos k) |>.trans_eq (by ring)
  rw [hgrid, ← mul_assoc, ← mul_assoc]
  constructor
  · apply mul_le_mul_of_nonneg_right _ hpos.le
    exact_mod_cast hbelow
  · apply mul_le_mul_of_nonneg_right _ hpos.le
    exact_mod_cast habove

theorem exact_of_dropped {k : Nat} (hlow : m * 2 ^ e ≤ q) (hq : q = (m / 2 ^ k : Nat) * 2 ^ (e + k)) :
    q = m * 2 ^ e ∧ m = m / 2 ^ k * 2 ^ k := by
  have hpos : (0 : ℚ) < 2 ^ e := by positivity
  have hsame : q = m * 2 ^ e := le_antisymm (hq.trans_le (dropped_bounds m k e).1) hlow
  refine ⟨hsame, ?_⟩
  rw [hsame, zpow_add₀ (by norm_num), zpow_natCast, mul_comm ((2 : ℚ) ^ e), ← mul_assoc] at hq
  exact_mod_cast mul_right_cancel₀ hpos.ne' hq

theorem dropped_places {k : Nat} (hk : max ((m.log2 : Int) + 1 + e - 53) (-1074) = e + k) :
    m / 2 ^ k < 2 ^ 53 ∧ (2 ^ 52 ≤ m / 2 ^ k ∨ e + k = -1074) := by
  constructor
  · rw [Nat.div_lt_iff_lt_mul (Nat.two_pow_pos k), ← Nat.pow_add]
    exact Nat.lt_of_lt_of_le Nat.lt_log2_self (Nat.pow_le_pow_right (by decide) (by omega))
  · by_cases hleast : e + k = -1074
    · exact .inr hleast
    · left
      have hlog : 52 + k = m.log2 := by omega
      have hm : m ≠ 0 := by
        rintro rfl
        rw [Nat.log2_zero] at hlog
        omega
      rw [Nat.le_div_iff_mul_le (Nat.two_pow_pos k), ← Nat.pow_add, hlog]
      exact Nat.log2_self_le hm

/-- Where a number is placed follows from what is left of its significand after `k` bits are dropped and the rest
is rounded. -/
theorem rank_roundWithAccuracy (s : Sign) {k t : Nat} (hk : max ((m.log2 : Int) + 1 + e - 53) (-1074) = e + k)
    (ht : e + k = t - 1074) :
    (Float.ofModel (.pack (roundWithAccuracy Format.binary64 s m e acc))).isNaN = false ∧
      rank (.ofModel (.pack (roundWithAccuracy Format.binary64 s m e acc))) = s.apply (min (t * 2 ^ 52 +
        (ExtendedMantissa.ofMantissaAndAccuracy m acc >>> k).roundedMantissa) topPlace : Nat) := by
  obtain ⟨hf, hnormal⟩ := dropped_places hk
  have hfirst : shiftToTargetExponent Format.binary64 m e acc =
      (ExtendedMantissa.ofMantissaAndAccuracy m acc >>> k, e + k) := by
    have hshift : (e + k - e).toNat = k := by omega
    rw [shiftToTargetExponent, targetExponent_eq, totalExponent, hk, shiftToExponent, hshift]
  have hn := roundedMantissa_cases (ExtendedMantissa.ofMantissaAndAccuracy m acc >>> k)
  rw [shiftRight_mantissa, mantissa_ofMantissaAndAccuracy] at hn
  generalize hround : (ExtendedMantissa.ofMantissaAndAccuracy m acc >>> k).roundedMantissa = n at hn
  simp only [roundWithAccuracy, hfirst, hround, shiftToTargetExponent_rounded (show n ≤ 2 ^ 53 by omega)
    (show -1074 ≤ e + k by omega)]
  by_cases hlt : n < 2 ^ 53
  · simp only [if_pos hlt]
    split
    next hzero =>
      have hplace : min (t * 2 ^ 52 + n) topPlace = 0 := by omega
      rw [hplace]
      cases s <;> decide
    next hne =>
      have hpack := rank_pack s (Nat.pos_of_ne_zero hne) hlt (show -1074 ≤ e + k by omega)
        (by omega)
      have ht' : (e + k + 1074).toNat = t := by omega
      rwa [ht'] at hpack
  · simp only [if_neg hlt]
    rw [dif_neg (by decide)]
    have hpack := rank_pack s (Nat.two_pow_pos 52) (by decide) (show -1074 ≤ e + k + 1 by omega)
      (.inl (Nat.le_refl _))
    have hplace : (e + k + 1 + 1074).toNat * 2 ^ 52 + 2 ^ 52 = t * 2 ^ 52 + n := by omega
    rwa [hplace] at hpack

end RoundWithAccuracy

end BandCanvas.Binary64
