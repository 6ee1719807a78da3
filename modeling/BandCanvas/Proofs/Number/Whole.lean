import Mathlib
import BandCanvas.Number.Decimal

namespace BandCanvas.Binary64

open Float.Model Float.Model.UnpackedFloat

/-- The parts of a whole number below `2^53`. Its significand is moved up to the highest place. -/
def wholeParts (n : Nat) : UnpackedFloat :=
  if h : n = 0 then .zero .positive
  else .finite .positive (n * 2 ^ (52 - n.log2)) ((n.log2 : Int) - 52)
    (Nat.mul_pos (Nat.pos_of_ne_zero h) (Nat.two_pow_pos _))

/-- The number `n` itself, if it is below `2^53`. -/
def ofWhole (n : Nat) : Float :=
  .ofModel (.pack (wholeParts n))

theorem log2_le_of_lt {n : Nat} (hn : n ≠ 0) (h : n < 2 ^ 53) : n.log2 ≤ 52 := by
  have hlt := (Nat.log2_lt hn).2 h
  omega

theorem log2_mul_two_pow {n : Nat} (hn : n ≠ 0) (k : Nat) : (n * 2 ^ k).log2 = n.log2 + k := by
  induction k with
  | zero => simp
  | succ k ih =>
    have hne : n * 2 ^ k ≠ 0 := Nat.mul_ne_zero hn (Nat.two_pow_pos k).ne'
    rw [Nat.pow_succ, ← Nat.mul_assoc, Nat.mul_comm _ 2, Nat.log2_two_mul hne, ih]
    rfl

theorem log2_scaled {n : Nat} (hn : n ≠ 0) (h : n < 2 ^ 53) : (n * 2 ^ (52 - n.log2)).log2 = 52 := by
  have hle := log2_le_of_lt hn h
  rw [log2_mul_two_pow hn]
  omega

theorem targetExponent_eq (t : Int) : Format.binary64.targetExponent t = max (t - 53) (-1074) :=
  rfl

theorem shiftRight_exact (m k : Nat) :
    (⟨m * 2 ^ k, false, false⟩ : ExtendedMantissa) >>> k = ⟨m, false, false⟩ := by
  induction k generalizing m with
  | zero =>
    rw [Nat.pow_zero, Nat.mul_one]
    rfl
  | succ k ih =>
    have hpow : m * 2 ^ (k + 1) = (m * 2) * 2 ^ k := by
      rw [Nat.pow_succ, Nat.mul_comm (2 ^ k), Nat.mul_assoc]
    have hlast : (⟨m * 2, false, false⟩ : ExtendedMantissa).shiftRightOne = ⟨m, false, false⟩ := by
      simp [ExtendedMantissa.shiftRightOne]
    rw [hpow, ← hlast, ← ih (m * 2)]
    rfl

theorem shiftToExponent_exact (m k : Nat) {e t : Int} (ht : t = e + k) :
    shiftToExponent (m * 2 ^ k) e .exact t = (⟨m, false, false⟩, t) := by
  have hk : (t - e).toNat = k := by omega
  rw [shiftToExponent, hk, ExtendedMantissa.ofMantissaAndAccuracy, shiftRight_exact, ht]

theorem shiftToTargetExponent_exact {m : Nat} (k : Nat) {e : Int} (hm : m.log2 = 52)
    (he : -1074 ≤ e + k) :
    shiftToTargetExponent Format.binary64 (m * 2 ^ k) e .exact = (⟨m, false, false⟩, e + k) := by
  have hne : m ≠ 0 := by
    intro h
    rw [h] at hm
    cases hm
  have ht : Format.binary64.targetExponent (totalExponent (m * 2 ^ k) e) = e + k := by
    rw [targetExponent_eq, totalExponent, log2_mul_two_pow hne, hm]
    omega
  rw [shiftToTargetExponent, ht, shiftToExponent_exact m k rfl]

theorem roundWithAccuracy_exact (s : Sign) {m : Nat} (k : Nat) {e : Int} (hpos : 0 < m)
    (hm : m.log2 = 52) (he : -1074 ≤ e + k) :
    roundWithAccuracy Format.binary64 s (m * 2 ^ k) e .exact = .finite s m (e + k) hpos := by
  have hagain : shiftToTargetExponent Format.binary64 m (e + k) .exact =
      (⟨m, false, false⟩, e + k) := by
    have h := shiftToTargetExponent_exact 0 hm (e := e + k) (by omega)
    simpa using h
  have hround : (⟨m, false, false⟩ : ExtendedMantissa).roundedMantissa = m := rfl
  simp only [roundWithAccuracy, shiftToTargetExponent_exact k hm he, hround, hagain]
  rw [dif_neg hpos.ne']

theorem toNat_implicit {m : Nat} (hpos : 0 < m) (hm : m.log2 = 52) :
    (1#1 ++ BitVec.ofNat 52 m).toNat = m := by
  obtain ⟨hlow, hhigh⟩ := (Nat.log2_eq_iff hpos.ne').1 hm
  rw [BitVec.toNat_append, ← Nat.shiftLeft_add_eq_or_of_lt (BitVec.isLt _)]
  simp only [BitVec.toNat_ofNat, Nat.shiftLeft_eq]
  omega

theorem pack_normal (s : Sign) {m b : Nat} {e : Int} (hpos : 0 < m) (hm : m.log2 = 52)
    (hb : (b : Int) = e + 1023 + 52) (hmax : b < 2047) :
    UnpackedFloat.pack Format.binary64 (.finite s m e hpos) =
      packComponents Format.binary64 s (BitVec.ofNat 11 b) (BitVec.ofNat 52 m) := by
  have hbiased : (e + Format.binary64.exponentBias + (52 : Nat)).toNat = b := by
    have hbias : (Format.binary64.exponentBias : Int) = 1023 := rfl
    omega
  simp only [UnpackedFloat.pack, hbiased]
  rw [if_neg (by omega), if_pos (by rw [hm]; rfl)]

/-- A normal number is unpacked to the parts it was packed from. -/
theorem unpack_pack_normal (s : Sign) {m b : Nat} {e : Int} (hpos : 0 < m) (hm : m.log2 = 52)
    (hb : (b : Int) = e + 1023 + 52) (hmin : 0 < b) (hmax : b < 2047) :
    (Float.Model.pack (.finite s m e hpos)).unpack = .finite s m e hpos := by
  have hbits : (BitVec.ofNat 11 b).toNat = b := by
    rw [BitVec.toNat_ofNat, Nat.mod_eq_of_lt (by omega)]
  have hones : BitVec.ofNat 11 b ≠ -1#11 := by
    intro h
    rw [h] at hbits
    have hall : (-1#11).toNat = 2047 := rfl
    omega
  have hzero : BitVec.ofNat 11 b ≠ 0#11 := by
    intro h
    rw [h] at hbits
    have hnone : (0#11).toNat = 0 := rfl
    omega
  show UnpackedFloat.unpack Format.binary64
    (UnpackedFloat.pack Format.binary64 (.finite s m e hpos)) = _
  rw [pack_normal s hpos hm hb hmax]
  simp only [UnpackedFloat.unpack, unpackMantissa_packComponents, unpackExponent_packComponents,
    unpackSign_packComponents, Sign.ofBitVec_toBitVec, if_neg hones, if_neg hzero, hbits,
    toNat_implicit hpos hm]
  congr 1
  have hbias : (Format.binary64.exponentBias : Int) = 1023 := rfl
  simp only [hbias]
  omega

theorem packComponents_positive_lt (e : BitVec 11) (m : BitVec 52) :
    (packComponents Format.binary64 .positive e m).toNat < 2 ^ 63 := by
  show ((0#1 ++ e) ++ m).toNat < 2 ^ 63
  rw [BitVec.toNat_append, ← Nat.shiftLeft_add_eq_or_of_lt m.isLt, BitVec.toNat_append,
    ← Nat.shiftLeft_add_eq_or_of_lt e.isLt, Nat.shiftLeft_eq, Nat.shiftLeft_eq]
  have he := e.isLt
  have hm := m.isLt
  have hsign : (0#1).toNat = 0 := rfl
  omega

variable {n : Nat}

theorem wholeParts_of_ne_zero (hn : n ≠ 0) :
    wholeParts n = .finite .positive (n * 2 ^ (52 - n.log2)) ((n.log2 : Int) - 52)
      (Nat.mul_pos (Nat.pos_of_ne_zero hn) (Nat.two_pow_pos _)) :=
  dif_neg hn

theorem unpack_ofWhole (h : n < 2 ^ 53) : (ofWhole n).toModel.unpack = wholeParts n := by
  by_cases hn : n = 0
  · subst hn
    rfl
  · have hle := log2_le_of_lt hn h
    rw [ofWhole, wholeParts_of_ne_zero hn]
    exact unpack_pack_normal (b := n.log2 + 1023) .positive _ (log2_scaled hn h) (by omega) (by omega)
      (by omega)

theorem ofNat_eq (h : n < 2 ^ 53) : UnpackedFloat.ofNat Format.binary64 n = wholeParts n := by
  by_cases hn : n = 0
  · subst hn
    rfl
  · have hle := log2_le_of_lt hn h
    have htarget : Format.binary64.targetExponent (totalExponent n 0) = (n.log2 : Int) - 52 := by
      rw [targetExponent_eq, totalExponent]
      omega
    have hmove : decreaseExponent n 0 ((n.log2 : Int) - 52) =
        (n * 2 ^ (52 - n.log2), (n.log2 : Int) - 52) := by
      have hk : (0 - ((n.log2 : Int) - 52)).toNat = 52 - n.log2 := by omega
      rw [decreaseExponent, hk, Nat.shiftLeft_eq]
      simp only [Prod.mk.injEq, true_and]
      omega
    have hpos : 0 < n * 2 ^ (52 - n.log2) :=
      Nat.mul_pos (Nat.pos_of_ne_zero hn) (Nat.two_pow_pos _)
    have hround := roundWithAccuracy_exact .positive 0 (e := (n.log2 : Int) - 52) hpos
      (log2_scaled hn h) (by omega)
    have hcompare : compare (n : Int) 0 = .gt := Int.compare_eq_gt.2 (by omega)
    rw [UnpackedFloat.ofNat, UnpackedFloat.ofInt, UnpackedFloat.normalize, hcompare]
    simp only [UnpackedFloat.round, Int.toNat_natCast, htarget, hmove]
    rw [wholeParts_of_ne_zero hn]
    simpa using hround

theorem toFloat_eq_ofWhole (h : n < 2 ^ 53) : n.toUInt64.toFloat = ofWhole n := by
  have hn : n.toUInt64.toNat = n := by
    rw [Nat.toUInt64_eq, UInt64.toNat_ofNat', Nat.mod_eq_of_lt (by omega)]
  rw [UInt64.toFloat, Float.Model.ofUInt64, UnpackedFloat.ofUInt64, hn, ofNat_eq h]
  rfl

theorem ofWhole_mul_one (h : n < 2 ^ 53) :
    ofWhole n * Float.ofBits 0x3ff0000000000000 = ofWhole n := by
  have hone : (Float.ofBits 0x3ff0000000000000).toModel.unpack =
      .finite .positive (2 ^ 52) (-52) (by decide) := rfl
  show Float.ofModel (.pack (mul Format.binary64 (ofWhole n).toModel.unpack
    (Float.ofBits 0x3ff0000000000000).toModel.unpack)) = _
  rw [unpack_ofWhole h, hone]
  by_cases hn : n = 0
  · subst hn
    rfl
  · have hle := log2_le_of_lt hn h
    have hpos : 0 < n * 2 ^ (52 - n.log2) :=
      Nat.mul_pos (Nat.pos_of_ne_zero hn) (Nat.two_pow_pos _)
    have hround := roundWithAccuracy_exact .positive 52 (e := (n.log2 : Int) - 52 + -52) hpos
      (log2_scaled hn h) (by omega)
    have hsum : (n.log2 : Int) - 52 + -52 + (52 : Nat) = (n.log2 : Int) - 52 := by omega
    rw [hsum] at hround
    rw [ofWhole, wholeParts_of_ne_zero hn]
    exact congrArg (fun x => Float.ofModel (.pack x)) hround

theorem ofScientific_eq_ofWhole (h : n < 2 ^ 53) : Float.ofScientific n false 0 = ofWhole n := by
  rw [Float.ofScientific, dif_pos ⟨h, by decide⟩]
  show n.toUInt64.toFloat * Float.ofBits 0x3ff0000000000000 = ofWhole n
  rw [toFloat_eq_ofWhole h, ofWhole_mul_one h]

theorem abs_ofWhole (h : n < 2 ^ 53) : (ofWhole n).abs = ofWhole n := by
  show Float.ofModel (.pack (ofWhole n).toModel.unpack.abs) = _
  rw [unpack_ofWhole h]
  by_cases hn : n = 0
  · subst hn
    rfl
  · rw [ofWhole, wholeParts_of_ne_zero hn]
    rfl

theorem roundToInt_scaled (hn : n ≠ 0) (h : n < 2 ^ 53) :
    roundToInt .positive (n * 2 ^ (52 - n.log2)) ((n.log2 : Int) - 52) = n := by
  have hle := log2_le_of_lt hn h
  have hmove : decreaseExponent (n * 2 ^ (52 - n.log2)) ((n.log2 : Int) - 52) 0 =
      (n * 2 ^ (52 - n.log2), (n.log2 : Int) - 52) := by
    have hk : ((n.log2 : Int) - 52 - 0).toNat = 0 := by omega
    rw [decreaseExponent, hk]
    simp
  have hshift := shiftToExponent_exact n (52 - n.log2) (e := (n.log2 : Int) - 52) (t := 0) (by omega)
  simp only [roundToInt, hmove, hshift]
  rfl

theorem toUInt64_ofWhole (h : n < 2 ^ 53) : (ofWhole n).toUInt64 = n.toUInt64 := by
  show UInt64.ofNatClamp ((ofWhole n).toModel.unpack.toInt 0 (UInt64.size - 1)).toNat = _
  rw [unpack_ofWhole h]
  by_cases hn : n = 0
  · subst hn
    rfl
  · have hsize : n < UInt64.size := Nat.lt_trans h (by decide)
    rw [wholeParts_of_ne_zero hn, UnpackedFloat.toInt, roundToInt_scaled hn h, Int.toNat_natCast,
      UInt64.ofNatClamp, dif_pos hsize]
    apply UInt64.toNat_inj.1
    rw [Nat.toUInt64_eq, UInt64.toNat_ofNat', Nat.mod_eq_of_lt hsize, UInt64.toNat_ofNatLT]

theorem negative_ofWhole (h : n < 2 ^ 53) : negative (ofWhole n) = false := by
  by_cases hn : n = 0
  · subst hn
    rfl
  · have hle := log2_le_of_lt hn h
    have hpack := pack_normal (b := n.log2 + 1023) .positive
      (Nat.mul_pos (Nat.pos_of_ne_zero hn) (Nat.two_pow_pos _)) (log2_scaled hn h)
      (e := (n.log2 : Int) - 52) (by omega) (by omega)
    have hlt : (ofWhole n).toBits.toNat < 2 ^ 63 := by
      show (UnpackedFloat.pack Format.binary64 (wholeParts n)).toNat < 2 ^ 63
      rw [wholeParts_of_ne_zero hn, hpack]
      exact packComponents_positive_lt _ _
    have hshift : (ofWhole n).toBits >>> 63 = 0 := by
      apply UInt64.toNat_inj.1
      rw [UInt64.toNat_shiftRight]
      exact Nat.shiftRight_eq_zero _ _ hlt
    rw [negative, hshift]
    rfl

theorem trunc_ofWhole (h : n < 2 ^ 53) : trunc (ofWhole n) = ofWhole n := by
  rw [trunc]
  split
  · rw [negative_ofWhole h, abs_ofWhole h, toUInt64_ofWhole h, toFloat_eq_ofWhole h, withSign,
      abs_ofWhole h]
    rfl
  · rfl

theorem isIntegral_ofWhole (h : n < 2 ^ 53) : isIntegral (ofWhole n) = true := by
  rw [isIntegral, trunc_ofWhole h]
  show ((ofWhole n).toModel.unpack.isFinite &&
    (ofWhole n).toModel.unpack.beq (ofWhole n).toModel.unpack) = true
  rw [unpack_ofWhole h]
  by_cases hn : n = 0
  · subst hn
    rfl
  · simp [wholeParts_of_ne_zero hn, UnpackedFloat.isFinite, UnpackedFloat.beq, UnpackedFloat.compare]

theorem zero_eq_ofWhole : (0 : Float) = ofWhole 0 := by
  show Float.ofScientific 0 false 0 = ofWhole 0
  exact ofScientific_eq_ofWhole (by decide)

theorem ofWhole_nonneg (h : n < 2 ^ 53) : ofWhole n ≥ 0 := by
  rw [zero_eq_ofWhole]
  apply decide_eq_true
  show (ofWhole 0).toModel.unpack.le (ofWhole n).toModel.unpack = true
  rw [unpack_ofWhole (by decide), unpack_ofWhole h]
  by_cases hn : n = 0
  · subst hn
    rfl
  · rw [wholeParts_of_ne_zero hn]
    rfl

theorem toNat64_ofWhole (h : n < 2 ^ 53) : toNat64 (ofWhole n) = n := by
  rw [toNat64, toUInt64_ofWhole h, Nat.toUInt64_eq, UInt64.toNat_ofNat',
    Nat.mod_eq_of_lt (Nat.lt_trans h (by decide))]

end BandCanvas.Binary64
