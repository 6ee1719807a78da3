import BandCanvas.Number.Hypotenuse
import BandCanvas.Proofs.Number.Halves

namespace BandCanvas.Binary64

open Float.Model Float.Model.UnpackedFloat

section Root

variable {n s fuel guess : Nat}

theorem sqrt_le_step (hs : s * s ≤ n) (hguess : 0 < guess) : s ≤ (guess + n / guess) / 2 := by
  have hquot : 2 * s - guess ≤ n / guess := by
    rw [Nat.le_div_iff_mul_le hguess]
    rcases Nat.lt_or_ge (2 * s) guess with hlt | hge
    · rw [Nat.sub_eq_zero_of_le hlt.le, Nat.zero_mul]
      exact Nat.zero_le n
    · obtain ⟨d, hd⟩ := Nat.exists_eq_add_of_le hge
      have hd' : 2 * s - guess = d := by omega
      rw [hd']
      nlinarith [sq_nonneg ((guess : Int) - d)]
  omega

/-- A Newton step from above halves the distance to the root. -/
theorem step_le (hn : n < (s + 1) * (s + 1)) (hguess : s < guess) :
    (guess + n / guess) / 2 ≤ (guess + s) / 2 := by
  have hquot : n / guess < s + 1 := by
    rw [Nat.div_lt_iff_lt_mul (by omega)]
    exact hn.trans_le (Nat.mul_le_mul_left _ hguess)
  omega

theorem sqrtFrom_eq (hs : s * s ≤ n) (hn : n < (s + 1) * (s + 1)) (hpos : 0 < s) (hle : s ≤ guess)
    (hfuel : guess < s + 2 ^ fuel) : sqrtFrom n fuel guess = s := by
  induction fuel generalizing guess with
  | zero =>
    rw [sqrtFrom]
    omega
  | succ fuel ih =>
    have habove := sqrt_le_step hs (hpos.trans_le hle)
    rw [sqrtFrom]
    split
    next hlt =>
      have hguess : s < guess := by omega
      have hbelow := step_le hn hguess
      have hpow : 2 ^ (fuel + 1) = 2 * 2 ^ fuel := by rw [Nat.pow_succ, Nat.mul_comm]
      exact ih habove (by omega)
    next hge =>
      have hquot : guess ≤ n / guess := by omega
      rw [Nat.le_div_iff_mul_le (hpos.trans_le hle)] at hquot
      have hroot : guess < s + 1 := Nat.mul_self_lt_mul_self_iff.1 (hquot.trans_lt hn)
      omega

theorem sqrtNat_eq (n : Nat) : sqrtNat n = n.sqrt := by
  rw [sqrtNat]
  split
  next hzero => rw [hzero, Nat.sqrt_zero]
  next hne =>
    have hlt : n < 2 ^ (n.log2 + 1) := Nat.lt_log2_self
    have hsquare : (2 ^ (n.log2 / 2 + 1)) * 2 ^ (n.log2 / 2 + 1) = 2 ^ (2 * (n.log2 / 2 + 1)) := by
      rw [← Nat.pow_add]
      congr 1
      omega
    have hguess : n.sqrt ≤ 2 ^ (n.log2 / 2 + 1) := by
      apply Nat.le_of_lt
      rw [Nat.sqrt_lt, hsquare]
      exact hlt.trans_le (Nat.pow_le_pow_right (by decide) (by omega))
    rw [Nat.shiftLeft_eq, Nat.one_mul]
    apply sqrtFrom_eq (Nat.sqrt_le n) (Nat.lt_succ_sqrt n) (Nat.sqrt_pos.2 (Nat.pos_of_ne_zero hne)) hguess
    exact Nat.lt_add_left _ (Nat.pow_lt_pow_right (by decide) (by omega))

end Root

section Scaled

variable {x y z : Float} {m n k : Nat} {e : Int} {q : ℚ}

theorem rank_ofBits (h : k < topPlace) :
    (Float.ofBits k.toUInt64).isNaN = false ∧ rank (Float.ofBits k.toUInt64) = k := by
  have hk : k < 2047 * 2 ^ 52 := h
  have hnat : k.toUInt64.toBitVec.toNat = k := by
    show k.toUInt64.toNat = k
    rw [Nat.toUInt64_eq, UInt64.toNat_ofNat', Nat.mod_eq_of_lt (by omega)]
  have hones : @unpackExponent Format.binary64 k.toUInt64.toBitVec ≠ -1#11 := by
    intro hones
    have hexponent := exponent_toNat k.toUInt64.toBitVec
    rw [hones, hnat] at hexponent
    have hall : (-1#11).toNat = 2047 := rfl
    omega
  have hbits : (Float.ofBits k.toUInt64).toBits = k.toUInt64 := by
    apply UInt64.toBitVec_inj.1
    exact pack_unpack_of_valid ⟨fun hones' => absurd hones' hones⟩
  have hnat' : (Float.ofBits k.toUInt64).toBits.toNat = k := by
    rw [hbits]
    exact hnat
  constructor
  · show (UnpackedFloat.unpack Format.binary64 (Float.ofBits k.toUInt64).toBits.toBitVec).isNaN = false
    rw [hbits]
    simp only [UnpackedFloat.unpack, if_neg hones]
    split
    · split <;> rfl
    · rfl
  · rw [rank, negative_of_toBits (by omega), if_neg Bool.false_ne_true, magnitudeBits_eq, hnat']
    omega

theorem roundShift_cases (m k : Nat) (more : Bool) :
    roundShift m k more = m / 2 ^ k ∨ roundShift m k more = m / 2 ^ k + 1 ∧ ¬ 2 ^ k ∣ m := by
  simp only [roundShift, Nat.shiftRight_eq_div_pow, Nat.shiftLeft_eq]
  split
  next => exact .inl rfl
  next hhigh =>
    split
    next =>
      refine .inr ⟨rfl, fun hdvd => hhigh (.inr ?_)⟩
      rw [Nat.div_mul_cancel hdvd, Nat.sub_self, Nat.one_mul]
      exact Nat.two_pow_pos _
    next => exact .inl rfl

/-- The exact value lies at `m · 2^e` or above it by less than `2^e`. -/
theorem rounded_ofScaled (hm : 0 < m) (he : 52 ≤ m.log2 ∨ e ≤ -1074) (hlow : m * 2 ^ e ≤ q)
    (hhigh : q < (m + 1) * 2 ^ e) (more : Bool) : Rounded q (ofScaled m e more) := by
  have hq : 0 ≤ q := le_trans (by positivity) hlow
  obtain ⟨k, hk⟩ : ∃ k : Nat, max ((m.log2 : Int) + 1 + e - 53) (-1074) = e + k :=
    ⟨(max ((m.log2 : Int) + 1 + e - 53) (-1074) - e).toNat, by omega⟩
  obtain ⟨t, ht⟩ : ∃ t : Nat, e + k = (t : Int) - 1074 := ⟨(e + k + 1074).toNat, by omega⟩
  obtain ⟨hf, hnormal⟩ := dropped_places hk
  obtain ⟨hbelow, habove⟩ := dropped_bounds m k e
  have hn : roundShift m k more = m / 2 ^ k ∨
      roundShift m k more = m / 2 ^ k + 1 ∧ q ≠ (m / 2 ^ k : Nat) * 2 ^ (e + k) := by
    refine (roundShift_cases m k more).imp_right fun ⟨hn, hdvd⟩ => ⟨hn, fun hgrid => hdvd ?_⟩
    exact ⟨_, (exact_of_dropped hlow hgrid).2.trans (Nat.mul_comm _ _)⟩
  have hshift : (if e + k ≤ e then m * 2 ^ (e - (e + k)).toNat else roundShift m (e + k - e).toNat more) =
      roundShift m k more := by
    split
    next hle =>
      obtain rfl : k = 0 := by omega
      have hzero : (e - (e + (0 : Nat))).toNat = 0 := by omega
      rw [hzero, roundShift, if_pos (.inl rfl), Nat.pow_zero, Nat.mul_one]
      rfl
    next =>
      have hk' : (e + k - e).toNat = k := by omega
      rw [hk']
  have hsame : ofScaled m e more = if t * 2 ^ 52 + roundShift m k more < topPlace then
      Float.ofBits (t * 2 ^ 52 + roundShift m k more).toUInt64 else infinity := by
    have hplace : max (e + m.log2 - 52) (-1074) = e + k := by omega
    have ht' : (e + k + 1074).toNat = t := by omega
    simp only [ofScaled, if_neg hm.ne', hplace, Nat.shiftLeft_eq, hshift, ht']
    rfl
  have hrank : (ofScaled m e more).isNaN = false ∧
      rank (ofScaled m e more) = (min (t * 2 ^ 52 + roundShift m k more) topPlace : Nat) := by
    rw [hsame]
    split
    next hlt =>
      rw [min_eq_left hlt.le]
      exact rank_ofBits hlt
    next hge =>
      rw [min_eq_right (by omega)]
      decide
  refine ⟨?_, hrank.1⟩
  rw [hrank.2]
  rw [ht] at hbelow habove hn
  apply Near.of_place hq
  exact place_bracket (hbelow.trans hlow) (lt_of_lt_of_le hhigh habove) hn hf (hnormal.imp_right (by omega))

theorem abs_value_eq (x : Float) : |value x| = significand x * 2 ^ exponent x := by
  have habs : |value x| = placeValue (magnitudeBits x) := by
    have hnonneg : 0 ≤ placeValue (magnitudeBits x) := by
      rw [← placeValue_zero]
      exact placeValue_strictMono.monotone (Nat.zero_le _)
    rw [value, rank]
    split
    · rw [valueAt_neg, valueAt_natCast, abs_neg, abs_of_nonneg hnonneg]
    · rw [valueAt_natCast, abs_of_nonneg hnonneg]
  rw [habs, placeValue, significand, exponent]
  generalize magnitudeBits x = k
  have hhigh : highBit = 2 ^ 52 := rfl
  simp only [hhigh, Nat.shiftRight_eq_div_pow]
  congr 2
  · split <;> omega
  · split <;> omega

/-- The square root of `n · 2^(2e)` lies at a whole number of units, or above it by less than one. -/
theorem rounded_sqrtScaled (hn : 0 < n) (e : Int) : ∃ a u : ℚ, 0 ≤ a ∧ 0 < u ∧ a ^ 2 ≤ n * (2 ^ e) ^ 2 ∧
    n * (2 ^ e) ^ 2 < (a + u) ^ 2 ∧ ∀ q, a ≤ q → q < a + u → Rounded q (sqrtScaled n e) := by
  obtain ⟨k, hk⟩ : ∃ k : Nat, 56 - n.log2 / 2 = k := ⟨_, rfl⟩
  have hroot : sqrtNat (n <<< (2 * k)) = (n * 2 ^ (2 * k)).sqrt := by
    rw [sqrtNat_eq, Nat.shiftLeft_eq]
  have hlog : (n * 2 ^ (2 * k)).log2 = n.log2 + 2 * k := log2_mul_two_pow hn.ne' _
  have hlarge : 2 ^ 52 ≤ (n * 2 ^ (2 * k)).sqrt := by
    rw [Nat.le_sqrt, ← Nat.pow_add, ← Nat.le_log2 (Nat.mul_pos hn (Nat.two_pow_pos _)).ne', hlog]
    omega
  obtain ⟨hbelow, habove⟩ := Nat.eq_sqrt.1 (rfl : (n * 2 ^ (2 * k)).sqrt = _)
  have hscale : (n : ℚ) * (2 ^ e) ^ 2 = (n * 2 ^ (2 * k) : Nat) * (2 ^ (e - k)) ^ 2 := by
    have he : (2 : ℚ) ^ e = 2 ^ k * 2 ^ (e - k) := by
      rw [← zpow_natCast, ← zpow_add₀ (by norm_num)]
      congr 1
      omega
    rw [he]
    push_cast
    ring
  have hunit : (0 : ℚ) < 2 ^ (e - k) := by positivity
  generalize hr : (n * 2 ^ (2 * k)).sqrt = r at *
  generalize n * 2 ^ (2 * k) = s at *
  refine ⟨r * 2 ^ (e - k), 2 ^ (e - k), by positivity, hunit, ?_, ?_, fun q hlow hhigh => ?_⟩
  · have hle : (r : ℚ) * r ≤ s := by exact_mod_cast hbelow
    rw [hscale, mul_pow, sq (r : ℚ)]
    exact mul_le_mul_of_nonneg_right hle (by positivity)
  · have hlt : (s : ℚ) < (r + 1) * (r + 1) := by exact_mod_cast habove
    have hsum : (r : ℚ) * 2 ^ (e - k) + 2 ^ (e - k) = (r + 1) * 2 ^ (e - k) := by ring
    rw [hscale, hsum, mul_pow, sq ((r : ℚ) + 1)]
    exact mul_lt_mul_of_pos_right hlt (by positivity)
  · have hsum : (r : ℚ) * 2 ^ (e - k) + 2 ^ (e - k) = (r + 1) * 2 ^ (e - k) := by ring
    rw [hsum] at hhigh
    simp only [sqrtScaled, hk, hroot]
    exact rounded_ofScaled (by omega) (.inl ((Nat.le_log2 (by omega)).2 hlarge)) hlow hhigh _

theorem not_isNaN_sqrtScaled (hn : 0 < n) : (sqrtScaled n e).isNaN = false := by
  obtain ⟨a, u, -, hu, -, -, hround⟩ := rounded_sqrtScaled hn e
  exact (hround a le_rfl (by linarith)).not_isNaN

theorem le_sqrtScaled (hn : 0 < n) (hz : z.isNaN = false) (hle : value z ^ 2 ≤ n * (2 ^ e) ^ 2) :
    value z ≤ value (sqrtScaled n e) := by
  obtain ⟨a, u, ha, hu, -, habove, hround⟩ := rounded_sqrtScaled hn e
  have hlt : value z < a + u := lt_of_pow_lt_pow_left₀ 2 (by linarith) (hle.trans_lt habove)
  rcases le_or_gt (value z) a with hbelow | hbetween
  · exact (hround a le_rfl (by linarith)).value_le hz hbelow
  · exact (hround (value z) hbetween.le hlt).value_le hz le_rfl

theorem sqrtScaled_le (hn : 0 < n) (hz : z.isNaN = false) (hpos : 0 ≤ value z)
    (hle : n * (2 ^ e) ^ 2 ≤ value z ^ 2) : value (sqrtScaled n e) ≤ value z := by
  obtain ⟨a, u, ha, hu, hbelow, -, hround⟩ := rounded_sqrtScaled hn e
  have haz : a ≤ value z := le_of_sq_le_sq (hbelow.trans hle) hpos
  exact (hround a le_rfl (by linarith)).le_value hz haz

end Scaled

section Hypot

variable {x y z : Float} {i : Int}

theorem not_isInf_of_isFinite (h : x.isFinite = true) : x.isInf = false := by
  have hx : x.toModel.unpack.isFinite = true := h
  show x.toModel.unpack.isInf = false
  cases hu : x.toModel.unpack with
  | infinity =>
    rw [hu] at hx
    cases hx
  | _ => rfl

theorem exists_hypot (hx : x.isFinite = true) (hy : y.isFinite = true) (hpos : 0 < value x ^ 2 + value y ^ 2) :
    ∃ (n : Nat) (e : Int), 0 < n ∧ hypot x y = sqrtScaled n e ∧ n * (2 ^ e) ^ 2 = value x ^ 2 + value y ^ 2 := by
  have hscaled (z : Float) {e : Int} (he : e ≤ exponent z) :
      value z ^ 2 = (significand z <<< (exponent z - e).toNat : Nat) ^ 2 * (2 ^ e) ^ 2 := by
    obtain ⟨k, hk⟩ : ∃ k : Nat, exponent z = e + k := ⟨(exponent z - e).toNat, by omega⟩
    have hk' : (e + k - e).toNat = k := by omega
    rw [← sq_abs, abs_value_eq, hk, hk', Nat.shiftLeft_eq, zpow_add₀ (by norm_num), zpow_natCast]
    push_cast
    ring
  obtain ⟨e, he⟩ : ∃ e, min (exponent x) (exponent y) = e := ⟨_, rfl⟩
  obtain ⟨m, hm⟩ : ∃ m, significand x <<< (exponent x - e).toNat = m := ⟨_, rfl⟩
  obtain ⟨n, hn⟩ : ∃ n, significand y <<< (exponent y - e).toNat = n := ⟨_, rfl⟩
  have hsquare : ((m * m + n * n : Nat) : ℚ) * (2 ^ e) ^ 2 = value x ^ 2 + value y ^ 2 := by
    rw [hscaled x (show e ≤ _ by omega), hscaled y (show e ≤ _ by omega), hm, hn]
    push_cast
    ring
  refine ⟨m * m + n * n, e, ?_, ?_, hsquare⟩
  · rw [← hsquare] at hpos
    have hsum := pos_of_mul_pos_left hpos (by positivity)
    exact_mod_cast hsum
  · rw [hypot, not_isInf_of_isFinite hx, not_isInf_of_isFinite hy, not_isNaN_of_isFinite hx,
      not_isNaN_of_isFinite hy]
    simp only [he, hm, hn]
    rfl

theorem not_isNaN_hypot (hx : x.isFinite = true) (hy : y.isFinite = true) (hpos : 0 < value x ^ 2 + value y ^ 2) :
    (hypot x y).isNaN = false := by
  obtain ⟨n, e, hn, hsame, -⟩ := exists_hypot hx hy hpos
  rw [hsame]
  exact not_isNaN_sqrtScaled hn

theorem le_hypot (hx : x.isFinite = true) (hy : y.isFinite = true) (hpos : 0 < value x ^ 2 + value y ^ 2)
    (hz : z.isNaN = false) (hle : value z ^ 2 ≤ value x ^ 2 + value y ^ 2) : value z ≤ value (hypot x y) := by
  obtain ⟨n, e, hn, hsame, hsquare⟩ := exists_hypot hx hy hpos
  rw [hsame]
  exact le_sqrtScaled hn hz (hle.trans_eq hsquare.symm)

theorem hypot_le (hx : x.isFinite = true) (hy : y.isFinite = true) (hpos : 0 < value x ^ 2 + value y ^ 2)
    (hz : z.isNaN = false) (hnonneg : 0 ≤ value z) (hle : value x ^ 2 + value y ^ 2 ≤ value z ^ 2) :
    value (hypot x y) ≤ value z := by
  obtain ⟨n, e, hn, hsame, hsquare⟩ := exists_hypot hx hy hpos
  rw [hsame]
  exact sqrtScaled_le hn hz hnonneg (hsquare.trans_le hle)

theorem isFinite_hypot (hx : x.isFinite = true) (hy : y.isFinite = true) (hpos : 0 < value x ^ 2 + value y ^ 2)
    (hz : z.isFinite = true) (hnonneg : 0 ≤ value z) (hle : value x ^ 2 + value y ^ 2 ≤ value z ^ 2) :
    (hypot x y).isFinite = true := by
  have hbelow := le_hypot hx hy hpos (z := 0) (by decide) (by rw [value_zero]; linarith)
  have habove := hypot_le hx hy hpos (not_isNaN_of_isFinite hz) hnonneg hle
  exact (Rounded.self (not_isNaN_hypot hx hy hpos)).isFinite (by decide) hz hbelow habove

theorem Halves.hypot {z : Float} {i j k : Int} (hx : Halves x i) (hy : Halves y j) (hz : Halves z k) (hk : 0 < k)
    (hsquare : i ^ 2 + j ^ 2 = k ^ 2) : Halves (hypot x y) k := by
  have hk' : (0 : ℚ) < k := by exact_mod_cast hk
  have hsum : value x ^ 2 + value y ^ 2 = value z ^ 2 := by
    have hsquare' : (i : ℚ) ^ 2 + j ^ 2 = k ^ 2 := by exact_mod_cast hsquare
    rw [hx.value_eq, hy.value_eq, hz.value_eq]
    linear_combination hsquare' / 4
  have hpos : 0 < value x ^ 2 + value y ^ 2 := by
    rw [hsum, hz.value_eq]
    positivity
  have hnonneg : 0 ≤ value z := by
    rw [hz.value_eq]
    positivity
  refine ⟨isFinite_hypot hx.isFinite hy.isFinite hpos hz.isFinite hnonneg hsum.le, ?_⟩
  rw [← hz.value_eq]
  exact le_antisymm (hypot_le hx.isFinite hy.isFinite hpos hz.not_isNaN hnonneg hsum.le)
    (le_hypot hx.isFinite hy.isFinite hpos hz.not_isNaN hsum.ge)

end Hypot

end BandCanvas.Binary64
