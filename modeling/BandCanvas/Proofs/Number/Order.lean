import Mathlib
import BandCanvas.Number.Rounding

namespace BandCanvas.Binary64

open Float.Model Float.Model.UnpackedFloat

/-- Where a number stands among all that are not NaN. The two zeros stand together. -/
def rank (x : Float) : Int :=
  if negative x then -(magnitudeBits x : Int) else magnitudeBits x

def partsRank : UnpackedFloat → Int
  | .infinity s => s.apply (2047 * 2 ^ 52)
  | .notANumber => 0
  | .zero _ => 0
  | .finite s m e _ => s.apply ((e + 1074) * 2 ^ 52 + m)

/-- Parts as they are unpacked from bits: only the smallest exponent goes with small significands. -/
def Unpacked : UnpackedFloat → Prop
  | .finite _ m e _ => m < 2 ^ 53 ∧ -1074 ≤ e ∧ e ≤ 971 ∧ (2 ^ 52 ≤ m ∨ e = -1074)
  | _ => True

section Parts

variable {m n : Nat} {e f a b : Int} {s t : Sign} {u v : UnpackedFloat}

theorem some_lt (h : a < b) : some .lt = some (compare a b) := by
  rw [Int.compare_eq_lt.2 h]

theorem some_gt (h : b < a) : some .gt = some (compare a b) := by
  rw [Int.compare_eq_gt.2 h]

theorem swap_compare (a b : Int) : (compare a b).swap = compare (-a) (-b) := by
  rcases Int.lt_trichotomy a b with h | rfl | h
  · rw [Int.compare_eq_lt.2 h, Int.compare_eq_gt.2 (by omega)]
    rfl
  · rw [Int.compare_eq_eq.2 rfl, Int.compare_eq_eq.2 rfl]
    rfl
  · rw [Int.compare_eq_gt.2 h, Int.compare_eq_lt.2 (by omega)]
    rfl

theorem magnitude_bounds {hm : 0 < m} (h : Unpacked (.finite s m e hm)) :
    0 < (e + 1074) * 2 ^ 52 + m ∧ (e + 1074) * 2 ^ 52 + m < 2047 * 2 ^ 52 := by
  obtain ⟨hlt, hmin, hmax, -⟩ := h
  omega

theorem compare_magnitudes {hm : 0 < m} {hn : 0 < n} (hu : Unpacked (.finite s m e hm))
    (hv : Unpacked (.finite t n f hn)) :
    (compare e f).then (compare m n) =
      compare ((e + 1074) * 2 ^ 52 + (m : Int)) ((f + 1074) * 2 ^ 52 + n) := by
  obtain ⟨hm, he, -, hme⟩ := hu
  obtain ⟨hn, hf, -, hnf⟩ := hv
  rcases Int.lt_trichotomy e f with hlt | rfl | hgt
  · rw [Int.compare_eq_lt.2 hlt, Int.compare_eq_lt.2 (by omega)]
    rfl
  · rw [Int.compare_eq_eq.2 rfl]
    rcases Nat.lt_trichotomy m n with hlt | rfl | hgt
    · rw [Nat.compare_eq_lt.2 hlt, Int.compare_eq_lt.2 (by omega)]
      rfl
    · rw [Nat.compare_eq_eq.2 rfl, Int.compare_eq_eq.2 rfl]
      rfl
    · rw [Nat.compare_eq_gt.2 hgt, Int.compare_eq_gt.2 (by omega)]
      rfl
  · rw [Int.compare_eq_gt.2 hgt, Int.compare_eq_gt.2 (by omega)]
    rfl

theorem compare_finite {hn : 0 < n} (hv : Unpacked (.finite t n f hn)) (hu : u.isNaN = false)
    (hfinite : ∀ s m e hm, u ≠ .finite s m e hm) :
    u.compare (.finite t n f hn) = some (compare (partsRank u) (partsRank (.finite t n f hn))) ∧
      UnpackedFloat.compare (.finite t n f hn) u =
        some (compare (partsRank (.finite t n f hn)) (partsRank u)) := by
  obtain ⟨hpos, hbound⟩ := magnitude_bounds hv
  cases u with
  | notANumber => cases hu
  | finite s m e hm => exact absurd rfl (hfinite s m e hm)
  | infinity s =>
    cases s <;> cases t <;> simp only [partsRank, Sign.apply]
    · exact ⟨some_lt (by omega), some_gt (by omega)⟩
    · exact ⟨some_lt (by omega), some_gt (by omega)⟩
    · exact ⟨some_gt (by omega), some_lt (by omega)⟩
    · exact ⟨some_gt (by omega), some_lt (by omega)⟩
  | zero s =>
    cases t <;> simp only [partsRank, Sign.apply]
    · exact ⟨some_gt (by omega), some_lt (by omega)⟩
    · exact ⟨some_lt (by omega), some_gt (by omega)⟩

/-- Parts that are not NaN are compared by their place. -/
theorem compare_eq (hu : Unpacked u) (hv : Unpacked v) (hnu : u.isNaN = false)
    (hnv : v.isNaN = false) : u.compare v = some (compare (partsRank u) (partsRank v)) := by
  cases u with
  | notANumber => cases hnu
  | infinity s =>
    cases v with
    | notANumber => cases hnv
    | infinity t => cases s <;> cases t <;> rfl
    | zero t => cases s <;> rfl
    | finite t n f hn => exact (compare_finite hv hnu fun _ _ _ _ h => nomatch h).1
  | zero s =>
    cases v with
    | notANumber => cases hnv
    | infinity t => cases t <;> rfl
    | zero t => rfl
    | finite t n f hn => exact (compare_finite hv hnu fun _ _ _ _ h => nomatch h).1
  | finite s m e hm =>
    cases v with
    | notANumber => cases hnv
    | infinity t => exact (compare_finite hu hnv fun _ _ _ _ h => nomatch h).2
    | zero t => exact (compare_finite hu hnv fun _ _ _ _ h => nomatch h).2
    | finite t n f hn =>
      obtain ⟨hpos, -⟩ := magnitude_bounds hu
      obtain ⟨hpos', -⟩ := magnitude_bounds hv
      have hmagnitudes := compare_magnitudes hu hv
      cases s <;> cases t <;> simp only [partsRank, Sign.apply]
      · rw [← swap_compare, ← hmagnitudes]
        rfl
      · exact some_lt (by omega)
      · exact some_gt (by omega)
      · rw [← hmagnitudes]
        rfl

end Parts

section Bits

variable (b : BitVec 64) (x : Float)

theorem mantissa_toNat : (@unpackMantissa Format.binary64 b).toNat = b.toNat % 2 ^ 52 := by
  simp only [unpackMantissa, BitVec.toNat_cast, BitVec.extractLsb_toNat, Nat.shiftRight_zero]

theorem exponent_toNat :
    (@unpackExponent Format.binary64 b).toNat = b.toNat / 2 ^ 52 % 2 ^ 11 := by
  simp only [unpackExponent, BitVec.toNat_cast, BitVec.extractLsb_toNat, Nat.shiftRight_eq_div_pow]

theorem sign_toNat : (@unpackSign Format.binary64 b).toNat = b.toNat / 2 ^ 63 := by
  simp only [unpackSign, BitVec.toNat_cast, BitVec.extractLsb_toNat, Nat.shiftRight_eq_div_pow]
  have hb := b.isLt
  omega

theorem magnitudeBits_eq : magnitudeBits x = x.toBits.toNat % 2 ^ 63 := by
  rw [magnitudeBits, UInt64.toNat_and]
  exact Nat.and_two_pow_sub_one_eq_mod _ 63

theorem negative_iff : negative x = true ↔ x.toBits.toNat / 2 ^ 63 = 1 := by
  have hshift : (x.toBits >>> 63).toNat = x.toBits.toNat / 2 ^ 63 := by
    rw [UInt64.toNat_shiftRight]
    exact Nat.shiftRight_eq_div_pow _ _
  rw [negative, beq_iff_eq, ← UInt64.toNat_inj, hshift]
  rfl

theorem sign_eq : Sign.ofBitVec (@unpackSign Format.binary64 x.toBits.toBitVec) =
    if negative x then .negative else .positive := by
  have hsign := sign_toNat x.toBits.toBitVec
  have hn : x.toBits.toNat < 2 ^ 64 := x.toBits.toBitVec.isLt
  have hbits : x.toBits.toBitVec.toNat = x.toBits.toNat := rfl
  by_cases h : negative x = true
  · rw [if_pos h, Sign.ofBitVec, if_neg]
    intro hzero
    rw [hzero, hbits, (negative_iff x).1 h] at hsign
    cases hsign
  · rw [if_neg h, Sign.ofBitVec, if_pos]
    rw [negative_iff] at h
    apply BitVec.eq_of_toNat_eq
    rw [hsign, hbits]
    show x.toBits.toNat / 2 ^ 63 = 0
    omega

theorem toNat_one_append (m : BitVec 52) : (1#1 ++ m).toNat = 2 ^ 52 + m.toNat := by
  rw [BitVec.toNat_append, ← Nat.shiftLeft_add_eq_or_of_lt m.isLt]
  rfl

variable {x}

theorem rank_eq : rank x = Sign.apply (if negative x then .negative else .positive)
    (magnitudeBits x) := by
  rw [rank]
  split <;> rfl

/-- A number that is not NaN is unpacked to parts of its place. -/
theorem unpack_rank (hx : x.isNaN = false) :
    Unpacked x.toModel.unpack ∧ partsRank x.toModel.unpack = rank x := by
  have hmantissa : (@unpackMantissa Format.binary64 x.toBits.toBitVec).toNat =
      x.toBits.toNat % 2 ^ 52 := mantissa_toNat x.toBits.toBitVec
  have hexponent : (@unpackExponent Format.binary64 x.toBits.toBitVec).toNat =
      x.toBits.toNat / 2 ^ 52 % 2 ^ 11 := exponent_toNat x.toBits.toBitVec
  have hmagnitude := magnitudeBits_eq x
  have hbias : (Format.binary64.exponentBias : Int) = 1023 := rfl
  have hunpack : x.toModel.unpack = UnpackedFloat.unpack Format.binary64 x.toBits.toBitVec := rfl
  have hnan : x.toModel.unpack.isNaN = false := hx
  rw [rank_eq, hunpack]
  rw [hunpack] at hnan
  simp only [UnpackedFloat.unpack, sign_eq, hbias] at hnan ⊢
  -- the highest exponent is that of infinities, the lowest that of zeros and subnormal numbers
  by_cases hones : @unpackExponent Format.binary64 x.toBits.toBitVec = -1#11
  · have hall : x.toBits.toNat / 2 ^ 52 % 2 ^ 11 = 2047 := by rw [← hexponent, hones]; rfl
    by_cases hzero : @unpackMantissa Format.binary64 x.toBits.toBitVec = 0#52
    · have hnone : x.toBits.toNat % 2 ^ 52 = 0 := by rw [← hmantissa, hzero]; rfl
      rw [if_pos hones, if_pos hzero]
      refine ⟨trivial, congrArg (Sign.apply _) ?_⟩
      omega
    · rw [if_pos hones, if_neg hzero] at hnan
      cases hnan
  · have hne : x.toBits.toNat / 2 ^ 52 % 2 ^ 11 ≠ 2047 := by
      intro h
      rw [← hexponent] at h
      exact hones (BitVec.eq_of_toNat_eq h)
    rw [if_neg hones]
    by_cases hleast : @unpackExponent Format.binary64 x.toBits.toBitVec = 0#11
    · have hnone : x.toBits.toNat / 2 ^ 52 % 2 ^ 11 = 0 := by rw [← hexponent, hleast]; rfl
      rw [if_pos hleast]
      by_cases hzero : @unpackMantissa Format.binary64 x.toBits.toBitVec = 0#52
      · have hempty : x.toBits.toNat % 2 ^ 52 = 0 := by rw [← hmantissa, hzero]; rfl
        have hbits : magnitudeBits x = 0 := by omega
        rw [dif_pos hzero, hbits]
        refine ⟨trivial, ?_⟩
        split <;> rfl
      · rw [dif_neg hzero]
        refine ⟨⟨?_, ?_, ?_, ?_⟩, congrArg (Sign.apply _) ?_⟩ <;> omega
    · have hpos : x.toBits.toNat / 2 ^ 52 % 2 ^ 11 ≠ 0 := by
        intro h
        rw [← hexponent] at h
        exact hleast (BitVec.eq_of_toNat_eq h)
      rw [if_neg hleast]
      simp only [toNat_one_append]
      refine ⟨⟨?_, ?_, ?_, ?_⟩, congrArg (Sign.apply _) ?_⟩ <;> omega

end Bits

variable {x y z : Float}

theorem compare_rank (hx : x.isNaN = false) (hy : y.isNaN = false) :
    x.toModel.unpack.compare y.toModel.unpack = some (compare (rank x) (rank y)) := by
  obtain ⟨hux, hrx⟩ := unpack_rank hx
  obtain ⟨huy, hry⟩ := unpack_rank hy
  rw [compare_eq hux huy hx hy, hrx, hry]

theorem le_iff_rank (hx : x.isNaN = false) (hy : y.isNaN = false) : x ≤ y ↔ rank x ≤ rank y := by
  have hle : x ≤ y ↔ x.toModel.unpack.le y.toModel.unpack = true := decide_eq_true_iff
  rw [hle, UnpackedFloat.le, compare_rank hx hy, Option.any_some]
  exact Int.isLE_compare

theorem lt_iff_rank (hx : x.isNaN = false) (hy : y.isNaN = false) : x < y ↔ rank x < rank y := by
  have hlt : x < y ↔ x.toModel.unpack.lt y.toModel.unpack = true := decide_eq_true_iff
  rw [hlt, UnpackedFloat.lt, compare_rank hx hy]
  simp [Int.compare_eq_lt]

theorem compare_notANumber (u : UnpackedFloat) : u.compare .notANumber = none := by
  cases u with
  | infinity s => cases s <;> rfl
  | _ => rfl

theorem not_isNaN_of_le (h : x ≤ y) : x.isNaN = false ∧ y.isNaN = false := by
  have hle : x.toModel.unpack.le y.toModel.unpack = true := of_decide_eq_true h
  constructor
  · cases hx : x.toModel.unpack with
    | notANumber =>
      rw [UnpackedFloat.le, hx] at hle
      cases hle
    | _ => exact congrArg UnpackedFloat.isNaN hx
  · cases hy : y.toModel.unpack with
    | notANumber =>
      rw [UnpackedFloat.le, hy, compare_notANumber] at hle
      cases hle
    | _ => exact congrArg UnpackedFloat.isNaN hy

theorem le_of_lt (h : x < y) : x ≤ y := by
  have hlt : x.toModel.unpack.lt y.toModel.unpack = true := of_decide_eq_true h
  have hcompare : x.toModel.unpack.compare y.toModel.unpack = some .lt := eq_of_beq hlt
  apply decide_eq_true
  show x.toModel.unpack.le y.toModel.unpack = true
  rw [UnpackedFloat.le, hcompare]
  rfl

theorem not_isNaN_of_beq (h : (x == y) = true) : x.isNaN = false ∧ y.isNaN = false := by
  have hcompare : x.toModel.unpack.compare y.toModel.unpack = some .eq := eq_of_beq h
  apply not_isNaN_of_le
  apply decide_eq_true
  show x.toModel.unpack.le y.toModel.unpack = true
  rw [UnpackedFloat.le, hcompare]
  rfl

theorem beq_iff_rank (hx : x.isNaN = false) (hy : y.isNaN = false) : (x == y) = true ↔ rank x = rank y := by
  have hbeq : (x == y) = (x.toModel.unpack.compare y.toModel.unpack == some .eq) := rfl
  rw [hbeq, compare_rank hx hy]
  simp

theorem beq_symm (h : (x == y) = true) : (y == x) = true := by
  obtain ⟨hx, hy⟩ := not_isNaN_of_beq h
  rw [beq_iff_rank hx hy] at h
  rw [beq_iff_rank hy hx]
  exact h.symm

theorem beq_trans (h : (x == y) = true) (h' : (y == z) = true) : (x == z) = true := by
  obtain ⟨hx, hy⟩ := not_isNaN_of_beq h
  obtain ⟨-, hz⟩ := not_isNaN_of_beq h'
  rw [beq_iff_rank hx hy] at h
  rw [beq_iff_rank hy hz] at h'
  rw [beq_iff_rank hx hz]
  exact h.trans h'

theorem beq_self (h : x.isFinite = true) : (x == x) = true := by
  have hfinite : x.toModel.unpack.isFinite = true := h
  have hx : x.isNaN = false := by
    show x.toModel.unpack.isNaN = false
    cases hu : x.toModel.unpack with
    | notANumber =>
      rw [hu] at hfinite
      cases hfinite
    | _ => rfl
  exact (beq_iff_rank hx hx).2 rfl

theorem isFinite_of_beq (h : (x == y) = true) (hy : y.isFinite = true) : x.isFinite = true := by
  have hcompare : x.toModel.unpack.compare y.toModel.unpack = some .eq := eq_of_beq h
  have hfinite : y.toModel.unpack.isFinite = true := hy
  show x.toModel.unpack.isFinite = true
  cases hx : x.toModel.unpack with
  | notANumber =>
    rw [hx] at hcompare
    cases hcompare
  | infinity s =>
    rw [hx] at hcompare
    cases hu : y.toModel.unpack with
    | notANumber | infinity =>
      rw [hu] at hfinite
      cases hfinite
    | _ =>
      rw [hu] at hcompare
      cases s <;> cases hcompare
  | _ => rfl

/-- The total order refines the comparison of numbers. -/
theorem rank_le_of_totalLE (h : totalLE x y = true) : rank x ≤ rank y := by
  have hkey : totalKey x ≤ totalKey y := of_decide_eq_true h
  rw [totalKey, totalKey] at hkey
  rw [rank, rank]
  cases hx : negative x <;> cases hy : negative y <;>
    simp only [hx, hy, Bool.false_eq_true, if_true, if_false] at hkey ⊢ <;> omega

theorem not_isNaN_greatest (hx : x.isNaN = false) (y : Float) : (greatest x y).isNaN = false := by
  rw [greatest, hx, Bool.false_or]
  split
  next h => exact (not_isNaN_of_le (le_of_lt (of_decide_eq_true h))).2
  next => exact hx

theorem rank_le_greatest_left (hx : x.isNaN = false) (y : Float) : rank x ≤ rank (greatest x y) := by
  rw [greatest, hx, Bool.false_or]
  split
  next h =>
    have hlt := of_decide_eq_true h
    exact (le_iff_rank hx (not_isNaN_of_le (le_of_lt hlt)).2).1 (le_of_lt hlt)
  next => exact Int.le_refl _

theorem rank_le_greatest_right (hx : x.isNaN = false) (hy : y.isNaN = false) :
    rank y ≤ rank (greatest x y) := by
  rw [greatest, hx, Bool.false_or]
  split
  next => exact Int.le_refl _
  next h =>
    have hlt : ¬ x < y := fun hlt => h (decide_eq_true hlt)
    rw [lt_iff_rank hx hy] at hlt
    omega

end BandCanvas.Binary64
