import Mathlib
import BandCanvas.Picture.Fit

namespace BandCanvas

variable {K : Type} [Field K] [LinearOrder K]

instance Scalar.exact : Scalar K where
  ofNat n := n
  least := min
  le x y := decide (x ≤ y)
  lt x y := decide (x < y)

structure Rect.Within (r : Rect K) (f : Frame K) : Prop where
  left : f.left ≤ r.x
  right : r.x + r.width ≤ f.right
  top : f.top ≤ r.y
  bottom : r.y + r.height ≤ f.bottom

namespace Fitting

def OneScale (w h : K) (target : Rect K) : Prop :=
  ∃ scale, 0 < scale ∧ target.width = w * scale ∧ target.height = h * scale

/-- Where a fit keeps the shape. Height first, it depends on how landscapes and other pictures fit the frame. -/
def KeepsShape (f : Fitting K) (w h : K) : Prop :=
  let maxW := f.frame.right - f.frame.left
  let maxH := f.frame.bottom - f.frame.top
  f.mode = .retainShape ∨ (w ≤ maxW ∧ h ≤ maxH) ∨
    if h < w then maxW / w ≤ maxH / h else maxH / h ≤ maxW / w

variable {maxW maxH w h : K}

theorem drawnSize_fits (hfits : w ≤ maxW ∧ h ≤ maxH) :
    drawnSize .realHeight maxW maxH w h =
      (w * min (maxW / w) (maxH / h), h * min (maxW / w) (maxH / h)) := by
  have hboth : (Scalar.le w maxW && Scalar.le h maxH) = true := by
    simpa [Scalar.le] using hfits
  simp only [drawnSize, hboth, if_true]
  rfl

theorem drawnSize_landscape (hlarge : ¬(w ≤ maxW ∧ h ≤ maxH)) (hwide : h < w) :
    drawnSize .realHeight maxW maxH w h = (w * (maxW / w), h * min (maxH / h) (maxW / w)) := by
  have hnone : (Scalar.le w maxW && Scalar.le h maxH) = false := by
    simpa [Scalar.le] using hlarge
  have hlt : Scalar.lt h w = true := decide_eq_true hwide
  simp only [drawnSize, hnone, hlt]
  rfl

theorem drawnSize_portrait (hlarge : ¬(w ≤ maxW ∧ h ≤ maxH)) (htall : ¬h < w) :
    drawnSize .realHeight maxW maxH w h = (w * min (maxW / w) (maxH / h), h * (maxH / h)) := by
  have hnone : (Scalar.le w maxW && Scalar.le h maxH) = false := by
    simpa [Scalar.le] using hlarge
  have hlt : Scalar.lt h w = false := decide_eq_false htall
  simp only [drawnSize, hnone, hlt]
  rfl

variable [IsStrictOrderedRing K]

theorem drawnSize_retainShape (hw : 0 < w) (hh : 0 < h) :
    drawnSize .retainShape maxW maxH w h =
      (w * min (maxW / w) (maxH / h), h * min (maxW / w) (maxH / h)) := by
  have hwidth : w * min (maxW / w) (maxH / h) ≤ maxW :=
    (mul_le_mul_of_nonneg_left (min_le_left _ _) hw.le).trans_eq (mul_div_cancel₀ maxW hw.ne')
  have hheight : h * min (maxW / w) (maxH / h) ≤ maxH :=
    (mul_le_mul_of_nonneg_left (min_le_right _ _) hh.le).trans_eq (mul_div_cancel₀ maxH hh.ne')
  exact Prod.ext (min_eq_left hwidth) (min_eq_left hheight)

/-- A picture is drawn at scales its frame has room for, the same for both axes exactly where the shape is kept.
-/
theorem exists_scales (f : Fitting K) {w h : K} (hmode : f.mode = .retainShape ∨ f.mode = .realHeight)
    (hwidth : f.frame.left < f.frame.right) (hheight : f.frame.top < f.frame.bottom)
    (hw : 0 < w) (hh : 0 < h) :
    ∃ sx sy, drawnSize f.mode (f.frame.right - f.frame.left) (f.frame.bottom - f.frame.top) w h =
        (w * sx, h * sy) ∧
      (0 < sx ∧ sx ≤ (f.frame.right - f.frame.left) / w) ∧
      (0 < sy ∧ sy ≤ (f.frame.bottom - f.frame.top) / h) ∧ (sx = sy ↔ f.KeepsShape w h) := by
  rw [KeepsShape]
  set maxW := f.frame.right - f.frame.left
  set maxH := f.frame.bottom - f.frame.top
  have hx : 0 < maxW / w := div_pos (sub_pos.2 hwidth) hw
  have hy : 0 < maxH / h := div_pos (sub_pos.2 hheight) hh
  have hleast : 0 < min (maxW / w) (maxH / h) := lt_min hx hy
  rcases hmode with hmode | hmode
  · rw [hmode]
    refine ⟨_, _, drawnSize_retainShape hw hh, ⟨hleast, min_le_left _ _⟩, ⟨hleast, min_le_right _ _⟩, ?_⟩
    exact iff_of_true rfl (.inl rfl)
  rw [hmode]
  by_cases hfits : w ≤ maxW ∧ h ≤ maxH
  · refine ⟨_, _, drawnSize_fits hfits, ⟨hleast, min_le_left _ _⟩, ⟨hleast, min_le_right _ _⟩, ?_⟩
    exact iff_of_true rfl (.inr (.inl hfits))
  by_cases hwide : h < w
  · refine ⟨_, _, drawnSize_landscape hfits hwide, ⟨hx, le_rfl⟩, ⟨lt_min hy hx, min_le_left _ _⟩, ?_⟩
    simp [hfits, hwide]
  · refine ⟨_, _, drawnSize_portrait hfits hwide, ⟨hleast, min_le_left _ _⟩, ⟨hy, le_rfl⟩, ?_⟩
    simp [hfits, hwide]

section Place

variable {f : Fitting K} (w h : K)

omit [IsStrictOrderedRing K] in
theorem place_size : ((f.place w h).target.width, (f.place w h).target.height) =
    drawnSize f.mode (f.frame.right - f.frame.left) (f.frame.bottom - f.frame.top) w h :=
  rfl

omit [IsStrictOrderedRing K] in
theorem place_x : (f.place w h).target.x = match f.horizontal with
    | .left => f.frame.left
    | .center => f.frame.left + (f.frame.right - f.frame.left - (f.place w h).target.width) / 2
    | .right => f.frame.right - (f.place w h).target.width := by
  rw [← Nat.cast_two (R := K)]
  rfl

omit [IsStrictOrderedRing K] in
theorem place_y : (f.place w h).target.y = match f.vertical with
    | .top => f.frame.top
    | .middle => f.frame.top + (f.frame.bottom - f.frame.top - (f.place w h).target.height) / 2
    | .bottom => f.frame.bottom - (f.place w h).target.height := by
  rw [← Nat.cast_two (R := K)]
  rfl

theorem place_within (hwidth : (f.place w h).target.width ≤ f.frame.right - f.frame.left)
    (hheight : (f.place w h).target.height ≤ f.frame.bottom - f.frame.top) :
    (f.place w h).target.Within f.frame := by
  have hx := place_x (f := f) w h
  have hy := place_y (f := f) w h
  have hleft : f.frame.left ≤ (f.place w h).target.x ∧
      (f.place w h).target.x + (f.place w h).target.width ≤ f.frame.right := by
    cases hside : f.horizontal with
    | left | center | right =>
      rw [hside] at hx
      constructor <;> linarith
  have htop : f.frame.top ≤ (f.place w h).target.y ∧
      (f.place w h).target.y + (f.place w h).target.height ≤ f.frame.bottom := by
    cases hside : f.vertical with
    | top | middle | bottom =>
      rw [hside] at hy
      constructor <;> linarith
  exact ⟨hleft.1, hleft.2, htop.1, htop.2⟩

end Place

/-- A fit draws the whole picture inside its frame, at one scale for both axes exactly where it keeps the shape.
-/
theorem keeps_shape_iff (f : Fitting K) (w h : K) (hmode : f.mode = .retainShape ∨ f.mode = .realHeight)
    (hwidth : f.frame.left < f.frame.right) (hheight : f.frame.top < f.frame.bottom)
    (hw : 0 < w) (hh : 0 < h) :
    (f.place w h).source = ⟨0, 0, w, h⟩ ∧
      (f.place w h).target.width ≤ f.frame.right - f.frame.left ∧
      (f.place w h).target.height ≤ f.frame.bottom - f.frame.top ∧
      (f.place w h).target.Within f.frame ∧
      (OneScale w h (f.place w h).target ↔ f.KeepsShape w h) := by
  obtain ⟨sx, sy, hsize, ⟨hpos, hsx⟩, ⟨-, hsy⟩, hsame⟩ := f.exists_scales hmode hwidth hheight hw hh
  obtain ⟨hdrawnW, hdrawnH⟩ := Prod.ext_iff.1 ((place_size w h).trans hsize)
  dsimp only at hdrawnW hdrawnH
  have hfitW : (f.place w h).target.width ≤ f.frame.right - f.frame.left := by
    rw [hdrawnW, mul_comm]
    exact (le_div_iff₀ hw).1 hsx
  have hfitH : (f.place w h).target.height ≤ f.frame.bottom - f.frame.top := by
    rw [hdrawnH, mul_comm]
    exact (le_div_iff₀ hh).1 hsy
  have hclip : f.mode ≠ .clip := by
    rcases hmode with hmode | hmode <;> rw [hmode] <;> decide
  have hzero : (Scalar.ofNat 0 : K) = 0 := Nat.cast_zero
  refine ⟨?_, hfitW, hfitH, place_within w h hfitW hfitH, ?_⟩
  · simp only [place, if_neg hclip, hzero]
  · rw [← hsame, OneScale, hdrawnW, hdrawnH]
    constructor
    · rintro ⟨scale, -, hx, hy⟩
      exact (mul_left_cancel₀ hw.ne' hx).trans (mul_left_cancel₀ hh.ne' hy).symm
    · intro heq
      exact ⟨sx, hpos, rfl, heq ▸ rfl⟩

def banner (mode : FitMode) : Fitting ℚ :=
  ⟨⟨0, 0, 25, 150⟩, mode, .left, .top⟩

theorem keeps_shape_iff_banner :
    OneScale 300 100 ((banner .retainShape).place 300 100).target ∧
      ¬OneScale 300 100 ((banner .realHeight).place 300 100).target := by
  have hkept : (banner .retainShape).KeepsShape 300 100 := .inl rfl
  have hlost : ¬(banner .realHeight).KeepsShape 300 100 := by
    rintro (hmode | hfits | hshape)
    · cases hmode
    · norm_num [banner] at hfits
    · norm_num [banner] at hshape
  obtain ⟨-, -, -, -, hretain⟩ := keeps_shape_iff (banner .retainShape) 300 100 (.inl rfl)
    (by decide) (by decide) (by decide) (by decide)
  obtain ⟨-, -, -, -, hheight⟩ := keeps_shape_iff (banner .realHeight) 300 100 (.inr rfl)
    (by decide) (by decide) (by decide) (by decide)
  exact ⟨hretain.2 hkept, fun h => hlost (hheight.1 h)⟩

/-- The height-first fit need not keep the shape. -/
theorem not_oneScale_banner :
    ¬∀ (f : Fitting ℚ) (w h : ℚ), f.mode = .retainShape ∨ f.mode = .realHeight →
      f.frame.left < f.frame.right → f.frame.top < f.frame.bottom → 0 < w → 0 < h →
      OneScale w h (f.place w h).target := by
  intro hall
  obtain ⟨scale, -, hwidth, hheight⟩ :=
    hall (banner .realHeight) 300 100 (.inr rfl) (by decide) (by decide) (by decide) (by decide)
  have hdrawnW : ((banner .realHeight).place 300 100).target.width = 150 := by decide +kernel
  have hdrawnH : ((banner .realHeight).place 300 100).target.height = 25 := by decide +kernel
  rw [hdrawnW] at hwidth
  rw [hdrawnH] at hheight
  linarith

end Fitting

end BandCanvas
