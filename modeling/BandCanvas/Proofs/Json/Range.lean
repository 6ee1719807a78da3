import BandCanvas.Json.Fields
import BandCanvas.Proofs.Number.Conversion

namespace BandCanvas

open Binary64

namespace JsonNumber

variable {x y : Float} {n : JsonNumber}

theorem isFinite_scale {fuel : Nat} {e : Int} (hx : x.isFinite = true) (h : scale fuel x e = some y) :
    y.isFinite = true := by
  induction fuel generalizing x e with
  | zero =>
    obtain rfl := Option.some.inj h
    decide
  | succ fuel ih =>
    rw [scale] at h
    dsimp only at h
    split at h
    next hsmall =>
      obtain ⟨hpower, hone⟩ := powerOfTen_bounds hsmall
      split at h
      · obtain rfl := Option.some.inj h
        exact isFinite_div hx hpower hone
      split at h
      · cases h
      next hinf =>
        obtain rfl := Option.some.inj h
        exact isFinite_mul hx hpower (by simpa using hinf)
    next =>
      split at h
      · obtain rfl := Option.some.inj h
        exact hx
      split at h
      · cases h
      · obtain ⟨hpower, hone⟩ := powerOfTen_bounds (Nat.le_refl 308)
        exact ih (isFinite_div hx hpower hone) h

theorem isFinite_float? (h : n.float? = some x) : x.isFinite = true := by
  have hsigned {o : Option Float} (ho : ∀ y, o = some y → y.isFinite = true)
      (h : (o.bind fun y => some (if n.negative then -y else y)) = some x) : x.isFinite = true := by
    obtain ⟨y, hy, hx⟩ := Option.bind_eq_some_iff.1 h
    obtain rfl := Option.some.inj hx
    split
    · exact isFinite_neg (ho y hy)
    · exact ho y hy
  simp only [float?, Option.bind_eq_bind, Option.pure_def] at h
  split at h
  · exact hsigned (fun y => isFinite_scale (isFinite_ofUInt64 _)) h
  · split at h
    · split at h
      · cases h
      · refine hsigned (fun y hy => ?_) h
        obtain rfl := Option.some.inj hy
        decide
    · exact hsigned (fun y => isFinite_scale (isFinite_ofUInt64 _)) h

theorem accumulate_lt (ds : List Char) {k : Nat} (hk : k < 2 ^ 64) : (accumulate k ds).1 < 2 ^ 64 := by
  induction ds generalizing k with
  | nil => exact hk
  | cons d ds ih =>
    rw [accumulate]
    split
    next hlt => exact ih hlt
    next => exact hk

theorem natAbs_integer?_le {i : Int} (h : n.integer? = some i) : i.natAbs ≤ 2 ^ 64 := by
  have hlt := accumulate_lt n.whole (k := 0) (by decide)
  rw [integer?] at h
  dsimp only at h
  split at h
  · cases h
  split at h
  · cases h
  split at h
  · obtain rfl := Option.some.inj h
    omega
  split at h
  · obtain rfl := Option.some.inj h
    omega
  · cases h

end JsonNumber

namespace Json.Written

theorem isFinite_float? {w : Written} {x : Float} (h : float? w = some x) : x.isFinite = true := by
  cases w with
  | number n =>
    simp only [float?] at h
    split at h
    next i hi =>
      obtain rfl := Option.some.inj h
      exact isFinite_ofInt (JsonNumber.natAbs_integer?_le hi)
    next => exact JsonNumber.isFinite_float? h
  | _ => cases h

end Json.Written

end BandCanvas
