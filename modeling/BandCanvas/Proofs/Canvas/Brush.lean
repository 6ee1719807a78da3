import Mathlib
import BandCanvas.Proofs.Canvas.Changes

namespace BandCanvas.Brush

variable {brush : Brush} {center p : Pixel}

theorem near_of_covers (h : brush.covers center p = true) :
    (p.x - center.x).natAbs ≤ brush.radius ∧ (p.y - center.y).natAbs ≤ brush.radius := by
  rw [covers, decide_eq_true_iff] at h
  have hx := mul_self_nonneg (p.x - center.x)
  have hy := mul_self_nonneg (p.y - center.y)
  constructor
  · rw [← Int.natAbs_natCast brush.radius, Int.natAbs_le_iff_mul_self_le]
    linarith
  · rw [← Int.natAbs_natCast brush.radius, Int.natAbs_le_iff_mul_self_le]
    linarith

/-- A stamp changes what the brush covers, each pixel once. -/
theorem stamp_changed (brush : Brush) (color : Color) (center : Pixel) (b : Bitmap) :
    Bitmap.Changed (fun x y => if brush.covers center ⟨x, y⟩ then color.blendOver else id) b
      (brush.stamp color center b) := by
  obtain ⟨r, hr⟩ : ∃ r : Int, (brush.radius : Int) = r := ⟨_, rfl⟩
  have hrows := Bitmap.forRows_changed (b := b)
    (f := fun y b' => b'.modifyRun (fun x c => if brush.covers center ⟨x, y⟩ then color.blendOver c else c) y
      (center.x - r).toNat (min (center.x + r + 1) b.width).toNat)
    (fun x y => if (center.x - r).toNat ≤ x ∧ x < (min (center.x + r + 1) b.width).toNat ∧
      brush.covers center ⟨x, y⟩ then color.blendOver else id)
    (center.y - r).toNat (min (center.y + r + 1) b.height).toNat
    fun y _ b' _ _ => (Bitmap.modifyRun_changed _ y _ _ b').congr fun x y' => by
      by_cases hy : y' = y
      · subst hy
        by_cases hc : brush.covers center ⟨x, y'⟩ <;> simp [hc, funext_iff]
      · rw [if_neg (fun h => hy h.2.2), if_neg hy]
  simp only [stamp, hr]
  refine hrows.congr_inside fun x y hx hy => ?_
  by_cases hc : brush.covers center ⟨x, y⟩
  · have hnear := near_of_covers hc
    dsimp only at hnear
    rw [if_pos (by omega), if_pos ⟨by omega, by omega, hc⟩, if_pos hc]
  · simp [hc]

end BandCanvas.Brush
