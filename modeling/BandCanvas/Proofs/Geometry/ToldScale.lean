import BandCanvas.Proofs.Number.Positive
import BandCanvas.Scale

namespace BandCanvas

open Binary64

inductive ScaleChange where
  | zoom (zoom : Float)
  | page (width height : Float)

namespace Scale

def change (s : Scale) : ScaleChange → Scale
  | .zoom zoom => s.withZoom zoom
  | .page width height => s.withPage width height

def after (s : Scale) (changes : List ScaleChange) : Scale :=
  changes.foldl change s

/-- The width of the page in device pixels, which a canvas may not have. -/
def fullWidth (s : Scale) : Float :=
  s.cssWidth * s.ratio

/-- The server renders for the canvas as it is. -/
def TellsCanvas (s : Scale) : Prop :=
  s.toCanvas = round2 (s.deviceWidth.toFloat / s.pageWidth)

variable {s : Scale}

section Width

theorem measured_of_isFinite (h : s.toCanvas.isFinite = true) :
    0 < s.fullWidth ∧ 0 < s.pageWidth ∧ s.toCanvas = round2 (s.fullWidth / s.pageWidth) := by
  rw [toCanvas] at h ⊢
  split at h
  next hmeasured =>
    obtain ⟨hwidth, hpage⟩ := Bool.and_eq_true_iff.1 hmeasured
    rw [if_pos hmeasured]
    exact ⟨of_decide_eq_true hwidth, of_decide_eq_true hpage, rfl⟩
  next => exact absurd h (by decide)

theorem fullWidth_isFinite (h : s.toCanvas.isFinite = true) : s.fullWidth.isFinite = true := by
  obtain ⟨hwidth, hpage, htold⟩ := measured_of_isFinite h
  rcases positive_cases hwidth with hinf | ⟨m, e, hparts⟩
  · rw [htold, hinf] at h
    rcases infinity_div hpage with hquot | hquot
    · rw [hquot] at h
      exact absurd h (by decide +kernel)
    · rw [hquot] at h
      exact absurd h (by decide)
  · exact hparts.isFinite

/-- The canvas has the width of the page, cut off and capped. -/
theorem deviceWidth_toFloat (h : 0 < s.fullWidth) (hfinite : s.fullWidth.isFinite = true) :
    s.deviceWidth.toFloat = trunc (clamp 0 maxEdge s.fullWidth) := by
  have hedge : maxEdge.isNaN = false := by decide
  have hclamp : 0 < clamp 0 maxEdge s.fullWidth ∧ clamp 0 maxEdge s.fullWidth ≤ 16384 := by
    rcases le_or_lt (not_isNaN_of_le (le_of_lt h)).2 hedge with hle | hlt
    · rw [clamp_of_le h hle]
      exact ⟨h, hle⟩
    · rw [clamp_of_lt h hlt]
      decide
  have hedge : s.deviceWidth = toNat32 (clamp 0 maxEdge s.fullWidth) := if_pos hfinite
  rw [hedge]
  exact toFloat_toNat32 hclamp.1 hclamp.2

theorem deviceWidth_eq_iff (h : 0 < s.fullWidth) (hfinite : s.fullWidth.isFinite = true) :
    s.deviceWidth.toFloat = s.fullWidth ↔ isIntegral s.fullWidth = true ∧ s.fullWidth ≤ maxEdge := by
  have hwidth := (not_isNaN_of_le (le_of_lt h)).2
  have hedge : maxEdge.isNaN = false := by decide
  rw [deviceWidth_toFloat h hfinite, isIntegral, hfinite, Bool.true_and]
  rcases le_or_lt hwidth hedge with hle | hlt
  · rw [clamp_of_le h hle]
    constructor
    · intro htrunc
      refine ⟨?_, hle⟩
      rw [htrunc]
      exact beq_self hfinite
    · rintro ⟨hwhole, -⟩
      exact eq_of_beq_of_pos h hwhole
  · have htrunc : trunc maxEdge = maxEdge := by decide
    rw [clamp_of_lt h hlt, htrunc]
    rw [lt_iff_rank hedge hwidth] at hlt
    constructor
    · intro heq
      rw [heq] at hlt
      exact absurd hlt (Int.lt_irrefl _)
    · rintro ⟨-, hle⟩
      rw [le_iff_rank hwidth hedge] at hle
      omega

end Width

section Changes

variable {density : Density}

theorem after_ratio (changes : List ScaleChange) (s : Scale) : (s.after changes).ratio = s.ratio := by
  induction changes generalizing s with
  | nil => rfl
  | cons c changes ih =>
    rw [after, List.foldl_cons]
    apply (ih (s.change c)).trans
    cases c <;> rfl

theorem clampZoom_pos (zoom : Float) : 0 < clampZoom zoom := by
  have hleast : (0 : Float) < 0.5 := by decide
  have hmost : (0 : Float) < 2 := by decide
  rw [clampZoom]
  split
  next hfinite => exact clamp_pos hleast hmost (not_isNaN_of_beq (beq_self hfinite)).1
  next => decide

theorem after_zoom_pos (changes : List ScaleChange) (h : 0 < s.zoom) : 0 < (s.after changes).zoom := by
  induction changes generalizing s with
  | nil => exact h
  | cons c changes ih =>
    apply ih (s := s.change c)
    cases c with
    | zoom zoom => exact clampZoom_pos zoom
    | page width height => exact h

/-- Where the canvas is stored as it is shown, there are one or two device pixels for each pixel of the page. -/
theorem ratio_eq (hstored : 0 < density.backingStoreRatio → density.backingStoreRatio = 1) :
    density.ratio = 1 ∨ density.ratio = 2 := by
  have hbacking : (if density.backingStoreRatio > 0 then density.backingStoreRatio else 1) = 1 := by
    split
    next h => exact hstored h
    next => rfl
  rw [Density.ratio, hbacking, Density.quantized]
  split
  · exact .inr (by decide)
  · exact .inl (by decide)

theorem cssWidth_cases (hpage : 0 < s.pageWidth) (hzoom : 0 < s.zoom) :
    s.cssWidth = 0 ∨ s.cssWidth = infinity ∨ ∃ m e, IsWhole s.cssWidth m e := by
  rw [cssWidth]
  rcases mul_of_pos hpage hzoom with hzero | hpos
  · rw [hzero]
    exact .inl (by decide)
  · exact round_of_pos hpos

theorem fullWidth_isIntegral (hpage : 0 < s.pageWidth) (hzoom : 0 < s.zoom)
    (hratio : s.ratio = 1 ∨ s.ratio = 2) (hwidth : 0 < s.fullWidth)
    (hfinite : s.fullWidth.isFinite = true) : isIntegral s.fullWidth = true := by
  rw [fullWidth] at hwidth hfinite ⊢
  rcases cssWidth_cases hpage hzoom with hzero | hinf | ⟨m, e, hwhole⟩
  · rw [hzero] at hwidth
    rcases hratio with hone | htwo
    · rw [hone] at hwidth
      exact absurd hwidth (by decide)
    · rw [htwo] at hwidth
      exact absurd hwidth (by decide)
  · rw [hinf] at hfinite
    rcases hratio with hone | htwo
    · rw [hone] at hfinite
      exact absurd hfinite (by decide)
    · rw [htwo] at hfinite
      exact absurd hfinite (by decide)
  · rcases hratio with hone | htwo
    · rw [hone] at hfinite ⊢
      exact (hwhole.mul unpack_one hfinite).isIntegral
    · rw [htwo] at hfinite ⊢
      exact (hwhole.mul unpack_two hfinite).isIntegral

end Changes

/-- The scale is that of the canvas where the full width of the page is a whole number up to the longest edge.
-/
theorem tellsCanvas_of_width (density : Density) (width height zoom : Float) (changes : List ScaleChange)
    (htold : ((ofPage density width height zoom).after changes).toCanvas.isFinite = true) :
    let s := (ofPage density width height zoom).after changes
    0 < s.fullWidth ∧ s.fullWidth.isFinite = true ∧
    s.toCanvas = round2 (s.fullWidth / s.pageWidth) ∧
    s.deviceWidth.toFloat = trunc (clamp 0 maxEdge s.fullWidth) ∧
    (s.deviceWidth.toFloat = s.fullWidth ↔ isIntegral s.fullWidth = true ∧ s.fullWidth ≤ maxEdge) ∧
    (isIntegral s.fullWidth = true → s.fullWidth ≤ maxEdge → s.TellsCanvas) ∧
    ((0 < density.backingStoreRatio → density.backingStoreRatio = 1) → s.fullWidth ≤ maxEdge →
      s.TellsCanvas) := by
  intro s
  obtain ⟨hwidth, hpage, hscale⟩ := measured_of_isFinite htold
  have hfinite := fullWidth_isFinite htold
  have hiff := deviceWidth_eq_iff hwidth hfinite
  have htells (hwhole : isIntegral s.fullWidth = true) (hle : s.fullWidth ≤ maxEdge) : s.TellsCanvas := by
    rw [TellsCanvas, hiff.2 ⟨hwhole, hle⟩]
    exact hscale
  refine ⟨hwidth, hfinite, hscale, deviceWidth_toFloat hwidth hfinite, hiff, htells, ?_⟩
  intro hstored hle
  have hzoom : 0 < s.zoom := after_zoom_pos changes (clampZoom_pos zoom)
  have hratio : s.ratio = 1 ∨ s.ratio = 2 := by
    rw [show s.ratio = density.ratio from after_ratio changes _]
    exact ratio_eq hstored
  exact htells (fullWidth_isIntegral hpage hzoom hratio hwidth hfinite) hle

theorem tellsCanvas_of_width_letter :
    let s := (ofPage Density.standard 100 100 1).after [.page 595 842, .zoom 2]
    s.toCanvas.isFinite = true ∧ s.deviceWidth = 1190 ∧ s.TellsCanvas := by
  intro s
  have htold : s.toCanvas.isFinite = true := by decide +kernel
  obtain ⟨-, -, -, -, -, -, htells⟩ := tellsCanvas_of_width Density.standard 100 100 1 _ htold
  exact ⟨htold, by decide +kernel, htells (fun _ => rfl) (by decide +kernel)⟩

/-- A page that is wider than any canvas is rendered at its full width. -/
theorem not_tellsCanvas_wide :
    ¬∀ (density : Density) (width height zoom : Float) (changes : List ScaleChange),
      ((ofPage density width height zoom).after changes).toCanvas.isFinite = true →
      ((ofPage density width height zoom).after changes).TellsCanvas := by
  intro hall
  have htells : (ofPage Density.standard 32768 842 1).TellsCanvas :=
    hall Density.standard 32768 842 1 [] (by decide +kernel)
  have hscale : (ofPage Density.standard 32768 842 1).toCanvas = 1 := by decide +kernel
  have hcanvas : round2 ((ofPage Density.standard 32768 842 1).deviceWidth.toFloat / 32768) = 0.5 := by
    decide +kernel
  have heq : (1 : Float) = 0.5 := hscale.symm.trans (htells.trans hcanvas)
  exact absurd heq (by decide +kernel)

end Scale

end BandCanvas
