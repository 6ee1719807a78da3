import BandCanvas.Proofs.Number.Rounding

namespace BandCanvas.Binary64

open Float.Model Float.Model.UnpackedFloat

/-- A place that no other is nearer to `q` than. Of two places that are equally near it is the even one. -/
structure NearestPlace (q : ℚ) (p : Int) : Prop where
  dist_le (r : Int) (hr : r.natAbs ≤ topPlace) : |valueAt p - q| ≤ |valueAt r - q|
  even_of_tie (r : Int) (hr : r.natAbs ≤ topPlace) (hne : r ≠ p) (htie : |valueAt r - q| = |valueAt p - q|) : Even p

/-- The number nearest to `q`. -/
structure Nearest (q : ℚ) (x : Float) : Prop extends NearestPlace q (rank x) where
  not_isNaN : x.isNaN = false

namespace NearestPlace

variable {q : ℚ} {p : Int}

theorem near (h : NearestPlace q p) : Near q p := by
  constructor
  · intro r hr hle
    by_contra hlt
    have hvalue := valueAt_strictMono (not_le.1 hlt)
    have hdist := h.dist_le r hr
    rw [abs_of_nonpos (by linarith), abs_of_nonpos (by linarith)] at hdist
    linarith
  · intro r hr hle
    by_contra hlt
    have hvalue := valueAt_strictMono (not_le.1 hlt)
    have hdist := h.dist_le r hr
    rw [abs_of_nonneg (by linarith), abs_of_nonneg (by linarith)] at hdist
    linarith

theorem neg (h : NearestPlace q p) : NearestPlace (-q) (-p) := by
  have hflip (r : Int) : |valueAt (-r) - -q| = |valueAt r - q| := by
    rw [valueAt_neg, neg_sub_neg, abs_sub_comm]
  have hflip' (r : Int) : |valueAt r - -q| = |valueAt (-r) - q| := by
    rw [← hflip, Int.neg_neg]
  refine ⟨fun r hr => ?_, fun r hr hne htie => ?_⟩
  · rw [hflip, hflip']
    exact h.dist_le (-r) (by omega)
  · rw [hflip, hflip'] at htie
    exact (h.even_of_tie (-r) (by omega) (by omega) htie).neg

theorem apply (h : NearestPlace q p) (s : Sign) : NearestPlace (s.apply 1 * q) (s.apply p) := by
  cases s with
  | positive =>
    show NearestPlace ((1 : Int) * q) p
    rwa [Int.cast_one, one_mul]
  | negative =>
    show NearestPlace ((-1 : Int) * q) (-p)
    rw [Int.cast_neg, Int.cast_one, neg_one_mul]
    exact h.neg

theorem self (p : Int) : NearestPlace (valueAt p) p := by
  refine ⟨fun r _ => ?_, fun r _ hne htie => absurd ?_ hne⟩
  · rw [sub_self, abs_zero]
    exact abs_nonneg _
  · rw [sub_self, abs_zero, abs_eq_zero, sub_eq_zero] at htie
    exact valueAt_strictMono.injective htie

theorem top (hq : valueAt topPlace ≤ q) : NearestPlace q topPlace := by
  have hdist (r : Int) (hr : r.natAbs ≤ topPlace) :
      |valueAt r - q| = q - valueAt r ∧ valueAt r ≤ valueAt topPlace := by
    have hle := valueAt_strictMono.monotone (show r ≤ topPlace by omega)
    rw [abs_of_nonpos (by linarith)]
    exact ⟨by ring, hle⟩
  obtain ⟨htop, -⟩ := hdist topPlace (by omega)
  refine ⟨fun r hr => ?_, fun r hr hne htie => absurd ?_ hne⟩
  · rw [htop, (hdist r hr).1]
    linarith [(hdist r hr).2]
  · rw [htop, (hdist r hr).1] at htie
    exact valueAt_strictMono.injective (by linarith)

/-- What lies up to halfway to the next place belongs to the place below it. -/
theorem of_below (hlow : valueAt p ≤ q) (hmid : 2 * q ≤ valueAt p + valueAt (p + 1))
    (htie : 2 * q = valueAt p + valueAt (p + 1) → Even p) : NearestPlace q p := by
  have hself : |valueAt p - q| = q - valueAt p := by
    rw [abs_of_nonpos (by linarith)]
    ring
  have hbelow {r : Int} (hr : r ≤ p) : |valueAt r - q| = q - valueAt r ∧ valueAt r ≤ valueAt p := by
    have hle := valueAt_strictMono.monotone hr
    rw [abs_of_nonpos (by linarith)]
    exact ⟨by ring, hle⟩
  have habove {r : Int} (hr : p < r) : |valueAt r - q| = valueAt r - q ∧ valueAt (p + 1) ≤ valueAt r := by
    have hle := valueAt_strictMono.monotone (show p + 1 ≤ r from hr)
    rw [abs_of_nonneg (by linarith)]
    exact ⟨rfl, hle⟩
  refine ⟨fun r _ => ?_, fun r _ hne heq => ?_⟩
  · rw [hself]
    rcases le_or_gt r p with hr | hr
    · rw [(hbelow hr).1]
      linarith [(hbelow hr).2]
    · rw [(habove hr).1]
      linarith [(habove hr).2]
  · rw [hself] at heq
    rcases le_or_gt r p with hr | hr
    · rw [(hbelow hr).1] at heq
      exact absurd (valueAt_strictMono.injective (by linarith)) hne
    · rw [(habove hr).1] at heq
      exact htie (by linarith [(habove hr).2])

theorem of_above (hhigh : q ≤ valueAt (p + 1)) (hmid : valueAt p + valueAt (p + 1) ≤ 2 * q)
    (htie : 2 * q = valueAt p + valueAt (p + 1) → Even (p + 1)) : NearestPlace q (p + 1) := by
  have hnext : -(p + 1) + 1 = -p := by ring
  have hflip : NearestPlace (-q) (-(p + 1)) := by
    apply of_below <;> rw [valueAt_neg]
    · linarith
    · rw [hnext, valueAt_neg]
      linarith
    · rw [hnext, valueAt_neg]
      exact fun heq => (htie (by linarith)).neg
  have hback := hflip.neg
  rwa [neg_neg, neg_neg] at hback

end NearestPlace

namespace Nearest

variable {q : ℚ} {x : Float}

theorem rounded (h : Nearest q x) : Rounded q x :=
  ⟨h.near, h.not_isNaN⟩

theorem self (hx : x.isNaN = false) : Nearest (value x) x :=
  ⟨.self (rank x), hx⟩

end Nearest

section Significands

variable {z : ℚ} {em : ExtendedMantissa}

/-- The number that a significand and the two bits after it stand for. The last bit tells whether anything is left
after the first. -/
def Stands (em : ExtendedMantissa) (z : ℚ) : Prop :=
  ∃ r : ℚ, z = em.mantissa + (if em.roundBit then 1 / 2 else 0) + r ∧ 0 ≤ r ∧ r < 1 / 2 ∧ (em.stickyBit = false ↔ r = 0)

theorem Stands.shiftRightOne (h : Stands em z) : Stands em.shiftRightOne (z / 2) := by
  obtain ⟨r, hz, hlow, hhigh, hsticky⟩ := h
  have hmod : (em.mantissa : ℚ) = 2 * (em.mantissa / 2 : Nat) + (em.mantissa % 2 : Nat) := by
    exact_mod_cast (Nat.div_add_mod em.mantissa 2).symm
  refine ⟨(if em.roundBit then 1 / 4 else 0) + r / 2, ?_, ?_, ?_, ?_⟩
  · rcases Nat.mod_two_eq_zero_or_one em.mantissa with hbit | hbit
    · rw [hbit] at hmod
      simp only [ExtendedMantissa.shiftRightOne, hbit]
      rw [hz, hmod]
      split <;> push_cast <;> norm_num <;> ring
    · rw [hbit] at hmod
      simp only [ExtendedMantissa.shiftRightOne, hbit]
      rw [hz, hmod]
      split <;> push_cast <;> norm_num <;> ring
  · split <;> linarith
  · split <;> linarith
  · simp only [ExtendedMantissa.shiftRightOne, Bool.or_eq_false_iff, hsticky]
    cases em.roundBit with
    | false => simp
    | true => simp; linarith

theorem Stands.shiftRight (h : Stands em z) (k : Nat) : Stands (em >>> k) (z / 2 ^ k) := by
  induction k with
  | zero =>
    rw [pow_zero, div_one]
    exact h
  | succ k ih =>
    rw [pow_succ, ← div_div]
    exact ih.shiftRightOne

/-- Rounding goes to the nearest integer, and to the even one if two are equally near. -/
theorem Stands.rounded (h : Stands em z) : (em.mantissa ≤ z ∧ z < em.mantissa + 1) ∧
    (em.roundedMantissa = em.mantissa ∧ 2 * z ≤ 2 * em.mantissa + 1 ∨
      em.roundedMantissa = em.mantissa + 1 ∧ 2 * em.mantissa + 1 ≤ 2 * z) ∧
    (2 * z = 2 * em.mantissa + 1 → Even em.roundedMantissa) := by
  obtain ⟨m, round, sticky⟩ := em
  obtain ⟨r, hz, hlow, hhigh, hsticky⟩ := h
  dsimp only at hz hsticky ⊢
  subst hz
  cases round with
  | false =>
    have hround : (⟨m, false, sticky⟩ : ExtendedMantissa).roundedMantissa = m := by cases sticky <;> rfl
    rw [hround, if_neg Bool.false_ne_true]
    exact ⟨⟨by linarith, by linarith⟩, .inl ⟨rfl, by linarith⟩, fun htie => by linarith⟩
  | true =>
    rw [if_pos rfl]
    refine ⟨⟨by linarith, by linarith⟩, ?_, fun htie => ?_⟩
    · cases sticky with
      | true => exact .inr ⟨rfl, by linarith⟩
      | false =>
        have hr := hsticky.1 rfl
        rcases roundedMantissa_cases ⟨m, true, false⟩ with hdown | hup
        · exact .inl ⟨hdown, by linarith⟩
        · exact .inr ⟨hup, by linarith⟩
    · have hr : r = 0 := by linarith
      rw [hsticky.2 hr]
      show Even (m + m % 2)
      rw [Nat.even_iff]
      omega

theorem stands_exact (m : Nat) : Stands (.ofMantissaAndAccuracy m .exact) m := by
  refine ⟨0, ?_, le_rfl, by norm_num, ?_⟩
  · simp [ExtendedMantissa.ofMantissaAndAccuracy]
  · simp [ExtendedMantissa.ofMantissaAndAccuracy]

theorem stands_fraction (m : Nat) {a n : Nat} (h : a < n) :
    Stands (.ofMantissaAndAccuracy m (accuracyOfFraction a n)) (m + a / n) := by
  have hn : (0 : ℚ) < n := by exact_mod_cast Nat.zero_lt_of_lt h
  rw [accuracyOfFraction]
  split
  next hzero =>
    rw [hzero, Nat.cast_zero, zero_div, add_zero]
    exact stands_exact m
  next hne =>
    have ha : (0 : ℚ) < a := by exact_mod_cast Nat.pos_of_ne_zero hne
    have hpos : (0 : ℚ) < a / n := by positivity
    have hlt : (a : ℚ) / n < 1 := (div_lt_one hn).2 (by exact_mod_cast h)
    rcases Nat.lt_trichotomy (2 * a) n with hless | heq | hmore
    · have hhalf : (a : ℚ) / n < 1 / 2 := by
        rw [div_lt_iff₀ hn]
        have : 2 * (a : ℚ) < n := by exact_mod_cast hless
        linarith
      rw [Nat.compare_eq_lt.2 hless]
      exact ⟨a / n, by simp [ExtendedMantissa.ofMantissaAndAccuracy], hpos.le, hhalf,
        by simp [ExtendedMantissa.ofMantissaAndAccuracy, hpos.ne']⟩
    · have hhalf : (a : ℚ) / n = 1 / 2 := by
        rw [div_eq_iff hn.ne', ← heq]
        push_cast
        ring
      rw [Nat.compare_eq_eq.2 heq, hhalf]
      exact ⟨0, by simp [ExtendedMantissa.ofMantissaAndAccuracy], le_rfl, by norm_num,
        by simp [ExtendedMantissa.ofMantissaAndAccuracy]⟩
    · have hhalf : 1 / 2 < (a : ℚ) / n := by
        rw [lt_div_iff₀ hn]
        have : (n : ℚ) < 2 * a := by exact_mod_cast hmore
        linarith
      rw [Nat.compare_eq_gt.2 hmore]
      refine ⟨a / n - 1 / 2, ?_, by linarith, by linarith, ?_⟩
      · simp [ExtendedMantissa.ofMantissaAndAccuracy]
      · simp only [ExtendedMantissa.ofMantissaAndAccuracy, Bool.true_eq_false, false_iff]
        linarith

end Significands

section RoundWithAccuracy

variable {z : ℚ} {f m n t : Nat} {e : Int} {acc : Accuracy}

/-- A significand that is rounded to nearest gives the nearest place, up to the last one. -/
theorem nearestPlace_of_rounded (hf : f < 2 ^ 53) (hnormal : 2 ^ 52 ≤ f ∨ t = 0) (hz : f ≤ z ∧ z < f + 1)
    (hround : n = f ∧ 2 * z ≤ 2 * f + 1 ∨ n = f + 1 ∧ 2 * f + 1 ≤ 2 * z) (htie : 2 * z = 2 * f + 1 → Even n) :
    NearestPlace (z * 2 ^ ((t : Int) - 1074)) (min (t * 2 ^ 52 + n) topPlace : Nat) := by
  have hunit : (0 : ℚ) < 2 ^ ((t : Int) - 1074) := by positivity
  have hfirst : valueAt (t * 2 ^ 52 + f : Nat) = f * 2 ^ ((t : Int) - 1074) := by
    rw [valueAt_natCast, placeValue_eq hf.le hnormal]
  have hsecond : valueAt ((t * 2 ^ 52 + f : Nat) + 1) = (f + 1) * 2 ^ ((t : Int) - 1074) := by
    rw [← Nat.cast_succ, Nat.succ_eq_add_one, Nat.add_assoc, valueAt_natCast, placeValue_eq (by omega) (by omega)]
    push_cast
    rfl
  have hmiddle : valueAt (t * 2 ^ 52 + f : Nat) + valueAt ((t * 2 ^ 52 + f : Nat) + 1) =
      (2 * f + 1) * 2 ^ ((t : Int) - 1074) := by
    rw [hfirst, hsecond]
    ring
  have hlow : valueAt (t * 2 ^ 52 + f : Nat) ≤ z * 2 ^ ((t : Int) - 1074) := by
    rw [hfirst]
    exact mul_le_mul_of_nonneg_right hz.1 hunit.le
  rcases Nat.lt_or_ge topPlace (t * 2 ^ 52 + n) with hlt | hle
  · have hpast : (topPlace : Int) ≤ (t * 2 ^ 52 + f : Nat) := by omega
    rw [min_eq_right hlt.le]
    exact .top ((valueAt_strictMono.monotone hpast).trans hlow)
  · rw [min_eq_left hle]
    have heven (heq : 2 * (z * 2 ^ ((t : Int) - 1074)) = (2 * f + 1) * 2 ^ ((t : Int) - 1074)) :
        Even ((t * 2 ^ 52 + n : Nat) : Int) := by
      rw [← mul_assoc] at heq
      have hn := Nat.even_iff.1 (htie (mul_right_cancel₀ hunit.ne' heq))
      rw [Int.even_coe_nat, Nat.even_iff]
      omega
    rcases hround with ⟨rfl, hmid⟩ | ⟨rfl, hmid⟩
    · apply NearestPlace.of_below hlow <;> rw [hmiddle]
      · rw [← mul_assoc]
        exact mul_le_mul_of_nonneg_right hmid hunit.le
      · exact heven
    · rw [← Nat.add_assoc, Nat.cast_succ] at heven ⊢
      apply NearestPlace.of_above
      · rw [hsecond]
        exact mul_le_mul_of_nonneg_right hz.2.le hunit.le
      · rw [hmiddle, ← mul_assoc]
        exact mul_le_mul_of_nonneg_right hmid hunit.le
      · rw [hmiddle]
        exact heven

/-- Bits are only dropped, so the significand has to be long enough. -/
theorem nearest_roundWithAccuracy (s : Sign) (he : 52 ≤ m.log2 ∨ e ≤ -1074)
    (hz : Stands (.ofMantissaAndAccuracy m acc) z) :
    Nearest (s.apply 1 * (z * 2 ^ e)) (.ofModel (.pack (roundWithAccuracy Format.binary64 s m e acc))) := by
  obtain ⟨k, hk⟩ : ∃ k : Nat, max ((m.log2 : Int) + 1 + e - 53) (-1074) = e + k :=
    ⟨(max ((m.log2 : Int) + 1 + e - 53) (-1074) - e).toNat, by omega⟩
  obtain ⟨t, ht⟩ : ∃ t : Nat, e + k = (t : Int) - 1074 := ⟨(e + k + 1074).toNat, by omega⟩
  obtain ⟨hf, hnormal⟩ := dropped_places hk
  obtain ⟨hgap, hround, htie⟩ := (hz.shiftRight k).rounded
  have hscale : z * 2 ^ e = z / 2 ^ k * 2 ^ ((t : Int) - 1074) := by
    rw [← ht, zpow_add₀ (by norm_num), zpow_natCast]
    field_simp
  rw [shiftRight_mantissa, mantissa_ofMantissaAndAccuracy] at hgap hround htie
  refine ⟨?_, (rank_roundWithAccuracy s hk ht).1⟩
  rw [(rank_roundWithAccuracy s hk ht).2, hscale]
  exact (nearestPlace_of_rounded hf (by omega) hgap hround htie).apply s

end RoundWithAccuracy

end BandCanvas.Binary64
