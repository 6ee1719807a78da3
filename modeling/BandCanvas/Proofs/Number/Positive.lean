import BandCanvas.Proofs.Number.Order
import BandCanvas.Proofs.Number.Whole

namespace BandCanvas.Binary64

open Float.Model Float.Model.UnpackedFloat

variable {x y : Float} {m n : Nat} {e : Int}

section Rank

/-- A number is told by its sign and its place. -/
theorem ext_rank (hsign : negative x = negative y) (hrank : rank x = rank y) : x = y := by
  have hx := magnitudeBits_eq x
  have hy := magnitudeBits_eq y
  have hnx := negative_iff x
  have hny := negative_iff y
  have hlx : x.toBits.toNat < 2 ^ 64 := x.toBits.toBitVec.isLt
  have hly : y.toBits.toNat < 2 ^ 64 := y.toBits.toBitVec.isLt
  have hbits : x.toBits = y.toBits := by
    apply UInt64.toNat_inj.1
    rw [rank, rank, hsign] at hrank
    rw [hsign] at hnx
    cases hn : negative y <;>
      simp only [hn, Bool.false_eq_true, if_true, if_false, false_iff, true_iff] at hrank hnx hny <;> omega
  obtain ⟨⟨bits, valid⟩⟩ := x
  obtain ⟨⟨bits', valid'⟩⟩ := y
  obtain rfl : bits = bits' := hbits
  rfl

theorem rank_zero : rank 0 = 0 := by decide

theorem pos_iff_rank (hx : x.isNaN = false) : 0 < x ↔ 0 < rank x := by
  rw [lt_iff_rank (by decide) hx, rank_zero]

theorem rank_pos (h : 0 < x) : 0 < rank x :=
  (pos_iff_rank (not_isNaN_of_le (le_of_lt h)).2).1 h

theorem negative_of_rank (h : 0 < rank x) : negative x = false := by
  cases hn : negative x with
  | false => rfl
  | true =>
    rw [rank, hn, if_pos rfl] at h
    omega

theorem negative_of_rank_neg (h : rank x < 0) : negative x = true := by
  cases hn : negative x with
  | true => rfl
  | false =>
    rw [rank, hn, if_neg Bool.false_ne_true] at h
    omega

theorem ext_of_pos (hx : 0 < x) (h : rank x = rank y) : x = y := by
  have hrank := rank_pos hx
  apply ext_rank _ h
  rw [negative_of_rank hrank, negative_of_rank (h ▸ hrank)]

theorem eq_of_beq_of_pos (hy : 0 < y) (h : (x == y) = true) : x = y := by
  obtain ⟨hnx, hny⟩ := not_isNaN_of_beq h
  exact (ext_of_pos hy ((beq_iff_rank hnx hny).1 h).symm).symm

end Rank

section Clamp

variable {lo hi : Float}

theorem le_or_lt (hx : x.isNaN = false) (hy : y.isNaN = false) : x ≤ y ∨ y < x := by
  rw [le_iff_rank hx hy, lt_iff_rank hy hx]
  omega

theorem not_lt_zero (h : 0 < x) : ¬ x < 0 := by
  have hpos := rank_pos h
  rw [lt_iff_rank (not_isNaN_of_le (le_of_lt h)).2 (by decide), rank_zero]
  omega

theorem clamp_of_le (h : 0 < x) (hle : x ≤ hi) : clamp 0 hi x = x := by
  obtain ⟨hx, hhi⟩ := not_isNaN_of_le hle
  rw [le_iff_rank hx hhi] at hle
  have hbelow : ¬ hi < x := by
    rw [lt_iff_rank hhi hx]
    omega
  rw [clamp, if_neg (not_lt_zero h)]
  exact if_neg hbelow

theorem clamp_of_lt (h : 0 < x) (hlt : hi < x) : clamp 0 hi x = hi := by
  rw [clamp, if_neg (not_lt_zero h)]
  exact if_pos hlt

theorem clamp_pos (hlo : 0 < lo) (hhi : 0 < hi) (hx : x.isNaN = false) : 0 < clamp lo hi x := by
  have hraised : 0 < if x < lo then lo else x := by
    split
    · exact hlo
    next hle =>
      have hpos := rank_pos hlo
      rw [lt_iff_rank hx (not_isNaN_of_le (le_of_lt hlo)).2] at hle
      rw [pos_iff_rank hx]
      omega
  show 0 < if hi < (if x < lo then lo else x) then hi else if x < lo then lo else x
  by_cases habove : hi < if x < lo then lo else x
  · rw [if_pos habove]
    exact hhi
  · rw [if_neg habove]
    exact hraised

end Clamp

structure HasParts (x : Float) (m : Nat) (e : Int) : Prop where
  pos : 0 < m
  unpack : x.toModel.unpack = .finite .positive m e pos

namespace HasParts

theorem isFinite (h : HasParts x m e) : x.isFinite = true := by
  show x.toModel.unpack.isFinite = true
  rw [h.unpack]
  rfl

theorem not_isNaN (h : HasParts x m e) : x.isNaN = false := by
  show x.toModel.unpack.isNaN = false
  rw [h.unpack]
  rfl

theorem unpacked (h : HasParts x m e) : Unpacked (.finite .positive m e h.pos) :=
  h.unpack ▸ (unpack_rank h.not_isNaN).1

theorem rank_eq (h : HasParts x m e) : rank x = (e + 1074) * 2 ^ 52 + m := by
  rw [← (unpack_rank h.not_isNaN).2, h.unpack]
  rfl

theorem rank_pos (h : HasParts x m e) : 0 < rank x := by
  rw [h.rank_eq]
  exact (magnitude_bounds h.unpacked).1

theorem zero_lt (h : HasParts x m e) : 0 < x :=
  (pos_iff_rank h.not_isNaN).2 h.rank_pos

theorem ext (h : HasParts x m e) (h' : HasParts y m e) : x = y :=
  ext_of_pos h.zero_lt (h.rank_eq.trans h'.rank_eq.symm)

end HasParts

/-- A positive number is infinite or has parts. -/
theorem positive_cases (h : 0 < x) : x = infinity ∨ ∃ m e, HasParts x m e := by
  have hx := (not_isNaN_of_le (le_of_lt h)).2
  have hrank := rank_pos h
  obtain ⟨hbounds, hparts⟩ := unpack_rank hx
  cases hu : x.toModel.unpack with
  | notANumber =>
    have hnan : x.toModel.unpack.isNaN = false := hx
    rw [hu] at hnan
    cases hnan
  | infinity s =>
    have hplace : rank infinity = 2047 * 2 ^ 52 := by decide
    rw [hu] at hparts
    cases s with
    | positive => exact .inl (ext_of_pos h (hparts.symm.trans hplace.symm))
    | negative =>
      rw [← hparts] at hrank
      exact absurd hrank (by decide)
  | zero =>
    rw [hu] at hparts
    rw [← hparts] at hrank
    exact absurd hrank (Int.lt_irrefl 0)
  | finite s m e hm =>
    rw [hu] at hparts hbounds
    cases s with
    | positive => exact .inr ⟨m, e, hm, hu⟩
    | negative =>
      have hpos := (magnitude_bounds hbounds).1
      rw [← hparts] at hrank
      simp only [partsRank, Sign.apply] at hrank
      omega

theorem unpack_pack_subnormal (s : Sign) (hm : 0 < m) (hlt : m < 2 ^ 52) :
    (Float.Model.pack (.finite s m (-1074) hm)).unpack = .finite s m (-1074) hm := by
  have hlog : m.log2 + 1 ≠ 53 := by
    have hlog := (Nat.log2_lt hm.ne').2 hlt
    omega
  have hmantissa : (BitVec.ofNat 52 m).toNat = m := by
    rw [BitVec.toNat_ofNat, Nat.mod_eq_of_lt hlt]
  have hzero : BitVec.ofNat 52 m ≠ 0#52 := by
    intro h
    rw [h] at hmantissa
    exact hm.ne hmantissa
  have hpack : UnpackedFloat.pack Format.binary64 (.finite s m (-1074) hm) =
      packComponents Format.binary64 s 0#11 (BitVec.ofNat 52 m) := if_neg hlog
  show UnpackedFloat.unpack Format.binary64
    (UnpackedFloat.pack Format.binary64 (.finite s m (-1074) hm)) = _
  rw [hpack]
  have hones : 0#11 ≠ -1#11 := by decide
  simp only [UnpackedFloat.unpack, unpackMantissa_packComponents, unpackExponent_packComponents,
    unpackSign_packComponents, Sign.ofBitVec_toBitVec, if_neg hones, if_true, dif_neg hzero, hmantissa]
  rfl

theorem unpack_pack {s : Sign} {hm : 0 < m} (h : Unpacked (.finite s m e hm)) :
    (Float.Model.pack (.finite s m e hm)).unpack = .finite s m e hm := by
  obtain ⟨hlt, hmin, hmax, hcase⟩ := h
  by_cases hnormal : 2 ^ 52 ≤ m
  · have hlog : m.log2 = 52 := (Nat.log2_eq_iff hm.ne').2 ⟨hnormal, hlt⟩
    exact unpack_pack_normal (b := (e + 1075).toNat) s hm hlog (by omega) (by omega) (by omega)
  · obtain rfl : e = -1074 := hcase.resolve_left hnormal
    exact unpack_pack_subnormal s hm (by omega)

theorem hasParts_pack {hm : 0 < m} (h : Unpacked (.finite .positive m e hm)) :
    HasParts (.ofModel (.pack (.finite .positive m e hm))) m e :=
  ⟨hm, unpack_pack h⟩

theorem hasParts_ofWhole (hn : n ≠ 0) (hlt : n < 2 ^ 53) :
    HasParts (ofWhole n) (n * 2 ^ (52 - n.log2)) (n.log2 - 52) :=
  ⟨_, (unpack_ofWhole hlt).trans (wholeParts_of_ne_zero hn)⟩

namespace HasParts

theorem abs_eq (h : HasParts x m e) : x.abs = x := by
  have habs : x.abs = .ofModel (.pack (.finite .positive m e h.pos)) := by
    show Float.ofModel (.pack x.toModel.unpack.abs) = _
    rw [h.unpack]
    rfl
  rw [habs]
  exact (hasParts_pack h.unpacked).ext h

/-- From `2^52` on every number is an integer, and no other number has an exponent that is not negative. -/
theorem lt_iff (h : HasParts x m e) : x < 4503599627370496 ↔ e < 0 := by
  have hplace : rank 4503599627370496 = 1075 * 2 ^ 52 := by decide
  obtain ⟨hlt, hmin, hmax, hcase⟩ := h.unpacked
  rw [lt_iff_rank h.not_isNaN (by decide), hplace, h.rank_eq]
  omega

theorem trunc_of_nonneg (h : HasParts x m e) (he : 0 ≤ e) : trunc x = x := by
  have hlarge : ¬ x.abs < 4503599627370496 := by
    rw [h.abs_eq, h.lt_iff]
    omega
  rw [trunc, if_neg hlarge]

end HasParts

theorem shiftRight_mantissa (em : ExtendedMantissa) (k : Nat) : (em >>> k).mantissa = em.mantissa / 2 ^ k := by
  induction k with
  | zero => exact (Nat.div_one _).symm
  | succ k ih =>
    show (em >>> k).mantissa / 2 = _
    rw [ih, Nat.div_div_eq_div_mul, Nat.pow_succ]

theorem roundToInt_of_neg (m : Nat) (he : e < 0) :
    roundToInt .positive m e = (m / 2 ^ (-e).toNat : Nat) := by
  have hsame : decreaseExponent m e 0 = (m, e) := by
    have hk : (e - 0).toNat = 0 := by omega
    rw [decreaseExponent, hk]
    simp
  have hk : (0 - e).toNat = (-e).toNat := by omega
  simp only [roundToInt, hsame, shiftToExponent, hk, shiftRight_mantissa]
  rfl

namespace HasParts

theorem toInt_eq (h : HasParts x m e) (he : e < 0) (lo hi : Int) :
    x.toModel.unpack.toInt lo hi = (m / 2 ^ (-e).toNat : Nat) := by
  rw [h.unpack, UnpackedFloat.toInt, roundToInt_of_neg m he]

theorem quotient_lt (h : HasParts x m e) (he : e < 0) : m / 2 ^ (-e).toNat < 2 ^ 52 := by
  obtain ⟨hlt, -⟩ := h.unpacked
  have htwo : 2 ^ 1 ≤ 2 ^ (-e).toNat := Nat.pow_le_pow_right (by decide) (by omega)
  rw [Nat.div_lt_iff_lt_mul (by omega)]
  omega

theorem toUInt64_eq (h : HasParts x m e) (he : e < 0) : x.toUInt64 = (m / 2 ^ (-e).toNat).toUInt64 := by
  have hq := h.quotient_lt he
  have hsize : m / 2 ^ (-e).toNat < UInt64.size := Nat.lt_trans hq (by decide)
  show UInt64.ofNatClamp (x.toModel.unpack.toInt 0 (UInt64.size - 1)).toNat = _
  rw [h.toInt_eq he, Int.toNat_natCast, UInt64.ofNatClamp, dif_pos hsize]
  apply UInt64.toNat_inj.1
  rw [Nat.toUInt64_eq, UInt64.toNat_ofNat', Nat.mod_eq_of_lt hsize, UInt64.toNat_ofNatLT]

theorem toNat32_eq (h : HasParts x m e) (he : e < 0) (hlt : m / 2 ^ (-e).toNat < 2 ^ 32) :
    toNat32 x = m / 2 ^ (-e).toNat := by
  have hsize : m / 2 ^ (-e).toNat < UInt32.size := hlt
  show (UInt32.ofNatClamp (x.toModel.unpack.toInt 0 (UInt32.size - 1)).toNat).toNat = _
  rw [h.toInt_eq he, Int.toNat_natCast, UInt32.ofNatClamp, dif_pos hsize, UInt32.toNat_ofNatLT]

theorem trunc_of_neg (h : HasParts x m e) (he : e < 0) : trunc x = ofWhole (m / 2 ^ (-e).toNat) := by
  have hq := h.quotient_lt he
  have hsmall : x.abs < 4503599627370496 := by
    rw [h.abs_eq, h.lt_iff]
    exact he
  rw [trunc, if_pos hsmall, negative_of_rank h.rank_pos, h.abs_eq, h.toUInt64_eq he,
    toFloat_eq_ofWhole (by omega), withSign, abs_ofWhole (by omega)]
  rfl

end HasParts

/-- A number that counts pixels is cut off to an integer. -/
theorem toFloat_toNat32 (h : 0 < x) (hle : x ≤ 16384) : (toNat32 x).toFloat = trunc x := by
  have hrank : rank 16384 = 1037 * 2 ^ 52 := by decide
  have hx := (not_isNaN_of_le hle).1
  rw [le_iff_rank hx (by decide), hrank] at hle
  obtain ⟨m, e, hparts⟩ : ∃ m e, HasParts x m e := by
    apply (positive_cases h).resolve_left
    rintro rfl
    exact absurd hle (by decide)
  rw [hparts.rank_eq] at hle
  obtain ⟨hlt, hmin, hmax, hcase⟩ := hparts.unpacked
  have he : e ≤ -38 := by omega
  have hq : m / 2 ^ (-e).toNat < 2 ^ 32 := by
    have htwo : 2 ^ 38 ≤ 2 ^ (-e).toNat := Nat.pow_le_pow_right (by decide) (by omega)
    rw [Nat.div_lt_iff_lt_mul (by omega)]
    omega
  rw [hparts.toNat32_eq (by omega) hq, hparts.trunc_of_neg (by omega)]
  exact ofScientific_eq_ofWhole (by omega)

structure IsWhole (x : Float) (m : Nat) (e : Int) : Prop extends HasParts x m e where
  dvd : 0 ≤ e ∨ 2 ^ (-e).toNat ∣ m

namespace IsWhole

theorem log2_eq (h : IsWhole x m e) : m.log2 = 52 := by
  obtain ⟨hlt, hmin, hmax, hcase⟩ := h.unpacked
  have hhigh : 2 ^ 52 ≤ m := by
    refine hcase.resolve_right ?_
    rintro rfl
    have hdvd := h.dvd.resolve_left (by decide)
    have hle := Nat.le_of_dvd h.pos hdvd
    have htwo : 2 ^ 53 ≤ 2 ^ (-(-1074 : Int)).toNat := Nat.pow_le_pow_right (by decide) (by decide)
    omega
  exact (Nat.log2_eq_iff h.pos.ne').2 ⟨hhigh, hlt⟩

theorem trunc_eq (h : IsWhole x m e) : trunc x = x := by
  rcases Int.lt_or_le e 0 with he | he
  · obtain ⟨n, rfl⟩ := h.dvd.resolve_left (by omega)
    have hlog := h.log2_eq
    have hq := h.quotient_lt he
    have hpos := h.pos
    have hn : n ≠ 0 := by
      rintro rfl
      exact absurd hpos (by simp)
    rw [h.trunc_of_neg he, Nat.mul_div_cancel_left n (Nat.two_pow_pos _)]
    rw [Nat.mul_comm, log2_mul_two_pow hn] at hlog
    rw [Nat.mul_div_cancel_left n (Nat.two_pow_pos _)] at hq
    have hparts := hasParts_ofWhole hn (by omega)
    have hk : 52 - n.log2 = (-e).toNat := by omega
    have he' : (n.log2 : Int) - 52 = e := by omega
    rw [hk, he', Nat.mul_comm] at hparts
    exact hparts.ext h.toHasParts
  · exact h.trunc_of_nonneg he

theorem isIntegral (h : IsWhole x m e) : isIntegral x = true := by
  rw [Binary64.isIntegral, h.trunc_eq, h.isFinite, beq_self h.isFinite]
  rfl

end IsWhole

theorem isWhole_ofWhole (hn : n ≠ 0) (hlt : n < 2 ^ 53) :
    IsWhole (ofWhole n) (n * 2 ^ (52 - n.log2)) (n.log2 - 52) := by
  refine ⟨hasParts_ofWhole hn hlt, ?_⟩
  have hle := log2_le_of_lt hn hlt
  have hk : (-((n.log2 : Int) - 52)).toNat = 52 - n.log2 := by omega
  rw [hk]
  exact .inr (Nat.dvd_mul_left _ _)

theorem pack_large {s : Sign} {hm : 0 < m} (he : 971 < e) :
    UnpackedFloat.pack Format.binary64 (.finite s m e hm) = packedInfinity Format.binary64 s := by
  have hbias : (Format.binary64.exponentBias : Int) = 1023 := rfl
  have hlarge : 2 ^ 11 ≤ (e + Format.binary64.exponentBias + (52 : Nat)).toNat + 1 := by omega
  exact if_pos hlarge

theorem not_isFinite_pack {s : Sign} {hm : 0 < m} (he : 971 < e) :
    (Float.ofModel (.pack (.finite s m e hm))).isFinite = false := by
  show (UnpackedFloat.unpack Format.binary64
    (UnpackedFloat.pack Format.binary64 (.finite s m e hm))).isFinite = false
  rw [pack_large he]
  cases s <;> rfl

theorem IsWhole.mul {k : Nat} {p : Float} (h : IsWhole x m e)
    (hp : p.toModel.unpack = .finite .positive (2 ^ 52) (k - 52) (by decide))
    (hfinite : (x * p).isFinite = true) : IsWhole (x * p) m (e + k) := by
  obtain ⟨hlt, hmin, hmax, hcase⟩ := h.unpacked
  have hlog := h.log2_eq
  have hround := roundWithAccuracy_exact .positive 52 (e := e + (k - 52)) h.pos hlog (by omega)
  have he : e + ((k : Int) - 52) + (52 : Nat) = e + k := by omega
  have hprod : x * p = .ofModel (.pack (.finite .positive m (e + k) h.pos)) := by
    rw [he] at hround
    show Float.ofModel (.pack (UnpackedFloat.mul Format.binary64 x.toModel.unpack p.toModel.unpack)) = _
    rw [h.unpack, hp]
    exact congrArg (fun u => Float.ofModel (.pack u)) hround
  rw [hprod] at hfinite ⊢
  have hle : e + k ≤ 971 := by
    by_contra hover
    rw [not_isFinite_pack (by omega)] at hfinite
    cases hfinite
  have hhigh : 2 ^ 52 ≤ m := ((Nat.log2_eq_iff h.pos.ne').1 hlog).1
  refine ⟨hasParts_pack ⟨hlt, by omega, hle, .inl hhigh⟩, ?_⟩
  rcases h.dvd with hnonneg | hdvd
  · exact .inl (by omega)
  · exact .inr ((pow_dvd_pow 2 (by omega)).trans hdvd)

theorem unpack_one : (1 : Float).toModel.unpack = .finite .positive (2 ^ 52) ((0 : Nat) - 52) (by decide) := by
  have hbits : (1 : Float) = Float.ofBits 0x3ff0000000000000 := by decide
  rw [hbits]
  rfl

theorem unpack_two : (2 : Float).toModel.unpack = .finite .positive (2 ^ 52) ((1 : Nat) - 52) (by decide) := by
  have hbits : (2 : Float) = Float.ofBits 0x4000000000000000 := by decide
  rw [hbits]
  rfl

theorem normalize_scaled (hn : n ≠ 0) (hlt : n < 2 ^ 53) :
    UnpackedFloat.normalize Format.binary64 ((n * 2 ^ 52 : Nat) : Int) (-52) .positive = wholeParts n := by
  have hle := log2_le_of_lt hn hlt
  have hpos : 0 < n * 2 ^ (52 - n.log2) := Nat.mul_pos (Nat.pos_of_ne_zero hn) (Nat.two_pow_pos _)
  have hcompare : compare ((n * 2 ^ 52 : Nat) : Int) 0 = .gt := Int.compare_eq_gt.2 (by omega)
  have htarget : Format.binary64.targetExponent (totalExponent (n * 2 ^ 52) (-52)) = (n.log2 : Int) - 52 := by
    rw [targetExponent_eq, totalExponent, log2_mul_two_pow hn]
    omega
  have hsame : decreaseExponent (n * 2 ^ 52) (-52) ((n.log2 : Int) - 52) = (n * 2 ^ 52, -52) := by
    have hk : (-52 - ((n.log2 : Int) - 52)).toNat = 0 := by omega
    rw [decreaseExponent, hk]
    simp
  have hsplit : n * 2 ^ 52 = n * 2 ^ (52 - n.log2) * 2 ^ n.log2 := by
    rw [Nat.mul_assoc, ← Nat.pow_add, Nat.sub_add_cancel hle]
  have hround := roundWithAccuracy_exact .positive n.log2 (e := -52) hpos (log2_scaled hn hlt) (by omega)
  have he : (-52 : Int) + n.log2 = n.log2 - 52 := by omega
  rw [← hsplit, he] at hround
  rw [UnpackedFloat.normalize, hcompare]
  simp only [UnpackedFloat.round, Int.toNat_natCast, htarget, hsame]
  rw [hround, wholeParts_of_ne_zero hn]

theorem ofWhole_add_one (hlt : n + 1 < 2 ^ 53) : ofWhole n + 1 = ofWhole (n + 1) := by
  show Float.ofModel (.pack (UnpackedFloat.add Format.binary64 (ofWhole n).toModel.unpack
    (1 : Float).toModel.unpack)) = _
  rw [unpack_ofWhole (by omega), unpack_one]
  by_cases hn : n = 0
  · subst hn
    rfl
  · have hle := log2_le_of_lt hn (by omega)
    have hmin : min ((n.log2 : Int) - 52) ((0 : Nat) - 52) = -52 := by omega
    have hleft : decreaseExponent (n * 2 ^ (52 - n.log2)) ((n.log2 : Int) - 52) (-52) =
        (n * 2 ^ 52, -52) := by
      have hk : ((n.log2 : Int) - 52 - -52).toNat = n.log2 := by omega
      rw [decreaseExponent, hk, Nat.shiftLeft_eq, Nat.mul_assoc, ← Nat.pow_add, Nat.sub_add_cancel hle]
      simp
    have hright : decreaseExponent (2 ^ 52) ((0 : Nat) - 52) (-52) = (2 ^ 52, -52) := rfl
    have hsum : Sign.positive.apply ((n * 2 ^ 52 : Nat) : Int) + Sign.positive.apply ((2 ^ 52 : Nat) : Int) =
        (((n + 1) * 2 ^ 52 : Nat) : Int) := by
      show ((n * 2 ^ 52 : Nat) : Int) + ((2 ^ 52 : Nat) : Int) = _
      omega
    rw [wholeParts_of_ne_zero hn, ofWhole]
    simp only [UnpackedFloat.add, hmin, hleft, hright, hsum, normalize_scaled (Nat.succ_ne_zero n) hlt]

namespace HasParts

theorem sub_self (h : HasParts x m e) : x - x = 0 := by
  show Float.ofModel (.pack (UnpackedFloat.sub Format.binary64 x.toModel.unpack x.toModel.unpack)) = _
  rw [h.unpack]
  have hcompare : compare (0 : Int) 0 = .eq := rfl
  simp only [UnpackedFloat.sub, Int.sub_self, UnpackedFloat.normalize, hcompare]
  rfl

theorem round_cases (h : HasParts x m e) :
    IsWhole (round x) m e ∨ ∃ n < 2 ^ 53, round x = ofWhole n := by
  have hone : withSign (negative x) 1 = 1 := by
    rw [negative_of_rank h.rank_pos]
    decide
  rcases Int.lt_or_le e 0 with he | he
  · have hq := h.quotient_lt he
    right
    rw [round, h.trunc_of_neg he, hone]
    split
    · exact ⟨m / 2 ^ (-e).toNat + 1, by omega, ofWhole_add_one (by omega)⟩
    · exact ⟨m / 2 ^ (-e).toNat, by omega, rfl⟩
  · have hsmall : ¬ (0 : Float).abs ≥ 0.5 := by decide
    left
    rw [round, h.trunc_of_nonneg he, h.sub_self, if_neg hsmall]
    exact ⟨h, .inl he⟩

end HasParts

theorem negative_of_toBits (h : x.toBits.toNat < 2 ^ 63) : negative x = false := by
  cases hn : negative x with
  | false => rfl
  | true =>
    rw [negative_iff] at hn
    omega

theorem eq_zero_or_pos (hsign : negative x = false) (hx : x.isNaN = false) : x = 0 ∨ 0 < x := by
  have hrank : rank x = magnitudeBits x := by
    rw [rank, hsign]
    rfl
  rw [pos_iff_rank hx]
  by_cases hpos : 0 < rank x
  · exact .inr hpos
  · left
    apply ext_rank
    · rw [hsign]
      decide
    · rw [rank_zero]
      omega

theorem pack_positive (hm : 0 < m) :
    negative (.ofModel (.pack (.finite .positive m e hm))) = false ∧
      (Float.ofModel (.pack (.finite .positive m e hm))).isNaN = false := by
  have hpacked : ∃ (b : BitVec 11) (c : BitVec 52), (b = -1#11 → c = 0#52) ∧
      UnpackedFloat.pack Format.binary64 (.finite .positive m e hm) =
        packComponents Format.binary64 .positive b c := by
    simp only [UnpackedFloat.pack]
    split
    · exact ⟨-1#11, 0#52, fun _ => rfl, rfl⟩
    · split
      next hsmall _ =>
        refine ⟨_, _, fun hones => ?_, rfl⟩
        have hbits := congrArg BitVec.toNat hones
        rw [BitVec.toNat_ofNat, Nat.mod_eq_of_lt (by omega)] at hbits
        have hall : (-1#11).toNat = 2047 := rfl
        omega
      next => exact ⟨0#11, _, fun hones => absurd hones (by decide), rfl⟩
  obtain ⟨b, c, hbc, hpack⟩ := hpacked
  constructor
  · apply negative_of_toBits
    show (UnpackedFloat.pack Format.binary64 (.finite .positive m e hm)).toNat < 2 ^ 63
    rw [hpack]
    exact packComponents_positive_lt b c
  · show (UnpackedFloat.unpack Format.binary64
      (UnpackedFloat.pack Format.binary64 (.finite .positive m e hm))).isNaN = false
    rw [hpack]
    simp only [UnpackedFloat.unpack, unpackMantissa_packComponents, unpackExponent_packComponents]
    split
    next hones =>
      rw [if_pos (hbc hones)]
      rfl
    next =>
      split
      · split <;> rfl
      · rfl

theorem mul_of_pos (hx : 0 < x) (hy : 0 < y) : x * y = 0 ∨ 0 < x * y := by
  have hprod : x * y = .ofModel (.pack (UnpackedFloat.mul Format.binary64 x.toModel.unpack y.toModel.unpack)) :=
    rfl
  have hinfinity : (0 : Float) < .ofModel (.pack (.infinity .positive)) := by decide
  have hunpack : infinity.toModel.unpack = .infinity .positive := rfl
  rcases positive_cases hx with rfl | ⟨m, e, hx⟩
  · rcases positive_cases hy with rfl | ⟨n, f, hy⟩
    · rw [hprod, hunpack]
      exact .inr hinfinity
    · rw [hprod, hunpack, hy.unpack]
      exact .inr hinfinity
  · rcases positive_cases hy with rfl | ⟨n, f, hy⟩
    · rw [hprod, hunpack, hx.unpack]
      exact .inr hinfinity
    · rw [hprod, hx.unpack, hy.unpack, UnpackedFloat.mul, roundWithAccuracy]
      dsimp only
      split
      next => exact .inl (by decide)
      next hm =>
        obtain ⟨hsign, hnan⟩ := pack_positive (Nat.pos_of_ne_zero hm)
        exact eq_zero_or_pos hsign hnan

theorem infinity_div (hy : 0 < y) : infinity / y = infinity ∨ infinity / y = nan := by
  have hquot : infinity / y = .ofModel (.pack (UnpackedFloat.div Format.binary64 infinity.toModel.unpack
      y.toModel.unpack)) := rfl
  have hunpack : infinity.toModel.unpack = .infinity .positive := rfl
  rcases positive_cases hy with rfl | ⟨n, f, hy⟩
  · exact .inr (by decide)
  · have hsame : Float.ofModel (.pack (.infinity .positive)) = infinity := by decide
    rw [hquot, hunpack, hy.unpack]
    exact .inl hsame

theorem round_of_pos (hx : 0 < x) : round x = 0 ∨ round x = infinity ∨ ∃ m e, IsWhole (round x) m e := by
  rcases positive_cases hx with rfl | ⟨m, e, hparts⟩
  · exact .inr (.inl (by decide +kernel))
  · rcases hparts.round_cases with hwhole | ⟨n, hlt, hround⟩
    · exact .inr (.inr ⟨m, e, hwhole⟩)
    · rw [hround]
      by_cases hn : n = 0
      · subst hn
        exact .inl zero_eq_ofWhole.symm
      · exact .inr (.inr ⟨_, _, isWhole_ofWhole hn hlt⟩)

end BandCanvas.Binary64
