import BandCanvas.Proofs.Canvas.Strokes

namespace BandCanvas

open Binary64

namespace Raster

variable {style : Style} {b : Bitmap} {n : Nat}

/-- The diagonal of the canvas is no shorter than its sides, and no longer than both of them together. -/
theorem diagonal_bounds (hn : 0 < n) (hle : n ≤ max b.width b.height) (hw : b.width < 2 ^ 31)
    (hh : b.height < 2 ^ 31) : (hypot b.width.toFloat b.height.toFloat).isFinite = true ∧
      n ≤ value (hypot b.width.toFloat b.height.toFloat) ∧
      value (hypot b.width.toFloat b.height.toFloat) ≤ (b.width + b.height : Nat) := by
  obtain ⟨hfiniteX, hx⟩ := value_toFloat (n := b.width) (by omega)
  obtain ⟨hfiniteY, hy⟩ := value_toFloat (n := b.height) (by omega)
  obtain ⟨hfiniteN, hvalue⟩ := value_toFloat (n := n) (by omega)
  obtain ⟨hfiniteSum, hsum⟩ := value_toFloat (n := b.width + b.height) (by omega)
  have hsquare : n ^ 2 ≤ b.width ^ 2 + b.height ^ 2 := by
    rcases le_max_iff.1 hle with hle | hle
    · exact (Nat.pow_le_pow_left hle 2).trans (Nat.le_add_right _ _)
    · exact (Nat.pow_le_pow_left hle 2).trans (Nat.le_add_left _ _)
  have hpos : 0 < value b.width.toFloat ^ 2 + value b.height.toFloat ^ 2 := by
    rw [hx, hy]
    exact_mod_cast (Nat.pow_pos hn).trans_le hsquare
  have hlong : value n.toFloat ≤ value (hypot b.width.toFloat b.height.toFloat) := by
    apply le_hypot hfiniteX hfiniteY hpos (not_isNaN_of_isFinite hfiniteN)
    rw [hvalue, hx, hy]
    exact_mod_cast hsquare
  have hshort : value b.width.toFloat ^ 2 + value b.height.toFloat ^ 2 ≤
      value (b.width + b.height).toFloat ^ 2 := by
    rw [hx, hy, hsum]
    push_cast
    nlinarith
  have hnonneg : 0 ≤ value (b.width + b.height).toFloat := by
    rw [hsum]
    positivity
  have hbound := hypot_le hfiniteX hfiniteY hpos (not_isNaN_of_isFinite hfiniteSum) hnonneg hshort
  rw [hvalue] at hlong
  rw [hsum] at hbound
  exact ⟨isFinite_hypot hfiniteX hfiniteY hpos hfiniteSum hnonneg hshort, hlong, hbound⟩

theorem le_widest (hn : 0 < n) (hle : n ≤ max b.width b.height) (hw : b.width < 2 ^ 31)
    (hh : b.height < 2 ^ 31) : ¬ 2 * hypot b.width.toFloat b.height.toFloat + 2 < n.toFloat := by
  obtain ⟨hfiniteN, hvalue⟩ := value_toFloat (n := n) (by omega)
  have hnan := not_isNaN_of_isFinite hfiniteN
  have htwo : value 2 = 2 := (value_toFloat (n := 2) (by decide)).2
  obtain ⟨hfinite, hlong, hshort⟩ := diagonal_bounds hn hle hw hh
  generalize hypot b.width.toFloat b.height.toFloat = diagonal at *
  have hn' : (0 : ℚ) < n := by exact_mod_cast hn
  have hdouble := rounded_mul halves_two.isFinite hfinite
  rw [htwo] at hdouble
  have hfinite' : (2 * diagonal).isFinite = true := by
    apply hdouble.isFinite_of_abs_le
    have hedges : ((b.width + b.height : Nat) : ℚ) ≤ 2 ^ 32 := by
      exact_mod_cast (show b.width + b.height ≤ 2 ^ 32 by omega)
    rw [abs_of_nonneg (by linarith)]
    calc 2 * value diagonal ≤ 2 * 2 ^ 32 := by linarith
      _ ≤ 2 ^ 64 := by norm_num
      _ ≤ _ := wordLimit_le
  have hdouble' := hdouble.value_le hnan (by linarith)
  have hmost := rounded_add hfinite' halves_two.isFinite
  have hmost' := hmost.value_le hnan (by rw [htwo]; linarith)
  rw [value_lt_iff hmost.not_isNaN hnan]
  exact not_lt.2 hmost'

theorem strokeWidth_eq (htransform : style.transform = Affine.identity) (hwidth : style.lineWidth = n.toFloat)
    (hn : 0 < n) (hle : n ≤ max b.width b.height) (hw : b.width < 2 ^ 31) (hh : b.height < 2 ^ 31) :
    strokeWidth style b = n := by
  have hscale : Affine.identity.determinant.abs.sqrt = 1 := by decide +kernel
  have hproduct : Halves (n.toFloat * 1) (2 * n) :=
    ((halves_toFloat (by omega)).mul halves_one (by omega)).congr (by omega)
  have hround := halves_round hproduct (by omega)
  have hone : ¬ round (n.toFloat * 1) < 1 := by
    rw [hround.lt_iff halves_one]
    omega
  have hmost : ¬ 2 * hypot b.width.toFloat b.height.toFloat + 2 < round (n.toFloat * 1) := by
    have hsame := hround.ext (halves_toFloat (by omega)) (by omega)
    rw [hsame]
    exact le_widest hn hle hw hh
  simp only [strokeWidth, htransform, hscale, hwidth, hproduct.isFinite, if_true, clamp, if_neg hone,
    if_neg hmost]
  exact hround.toNat32_eq (by omega)

def strokeSegment (r : Raster) (px py qx qy : Float) : Raster :=
  [CanvasCall.beginPath, .moveTo px py, .lineTo qx qy, .stroke].foldl Raster.apply r

/-- Strokes the line between two points with words of 32 bits. -/
def strokeSegment32? (r : Raster) (px py qx qy : Float) : Option Raster :=
  [CanvasCall.beginPath, .moveTo px py, .lineTo qx qy, .stroke].foldlM Raster.applied32? r

def lined (width height lineWidth : Nat) : Raster :=
  (ofSize width height Color.clear).apply (.lineWidth lineWidth.toFloat)

/-- How many pixels wide the stroke of a line width comes out. -/
def strokeThickness (n : Nat) : Nat :=
  if n = 2 then 1 else n

section Segments

variable {r : Raster} {px py qx qy : Float}

theorem strokeSegment_pixels (r : Raster) (px py qx qy : Float) : (r.strokeSegment px py qx qy).pixels =
    Segment.paint ⟨r.transform.applyPoint (.ofXY px py), r.transform.applyPoint (.ofXY qx qy)⟩
      ⟨strokeWidth r.pen.style r.pixels⟩ r.pen.style.stroke r.pixels :=
  rfl

theorem at_applyPoint_identity {i j : Int} {point : Point} (h : point.At i j) (hi : i.natAbs < 2 ^ 52)
    (hj : j.natAbs < 2 ^ 52) : (Affine.identity.applyPoint point).At i j := by
  have hone {x : Float} {k : Int} (h : Halves x k) (hk : k.natAbs < 2 ^ 52) : Halves (1 * x) k :=
    (halves_one.mul (a := 1) h (by omega)).congr (Int.one_mul k)
  have hzero {x : Float} {k : Int} (h : Halves x k) : Halves (0 * x) 0 :=
    (halves_zero.mul (a := 0) h (by omega)).congr (Int.zero_mul k)
  constructor
  · exact (((hone h.x hi).add (hzero h.y) (by omega)).add halves_zero (by omega)).congr (by omega)
  · exact (((hzero h.x).add (hone h.y hj) (by omega)).add halves_zero (by omega)).congr (by omega)

theorem halves_of_beq {x : Float} (h : (x == n.toFloat) = true) (hn : n < 2 ^ 52) : Halves x (2 * n) := by
  have hwhole := halves_toFloat hn
  refine ⟨isFinite_of_beq h hwhole.isFinite, ?_⟩
  obtain ⟨hx, hn⟩ := not_isNaN_of_beq h
  rw [(beq_iff_value hx hn).1 h, hwhole.value_eq]

theorem at_of_beq {x y : Nat} (hx : (px == x.toFloat) = true) (hy : (py == y.toFloat) = true) (hx' : x < 2 ^ 52)
    (hy' : y < 2 ^ 52) : (Point.ofXY px py).At (2 * x) (2 * y) :=
  ⟨halves_of_beq hx hx', halves_of_beq hy hy'⟩

theorem thickness_eq (hn : 0 < n) : Segment.thickness ⟨n⟩ = strokeThickness n := by
  rw [Segment.thickness, strokeThickness, Brush.radius]
  dsimp only
  split <;> split <;> omega

section Words

variable {x₀ y₀ x₁ y₁ : Nat} (htransform : r.transform = Affine.identity) (hw : r.pixels.width < 2 ^ 31)
  (hh : r.pixels.height < 2 ^ 31)

include htransform hw hh

theorem at_applyPoint_of_beq (hpx : px == x₀.toFloat) (hpy : py == y₀.toFloat)
    (hp : Segment.OnBitmap ⟨x₀, y₀⟩ r.pixels) : (r.transform.applyPoint (.ofXY px py)).At (2 * x₀) (2 * y₀) := by
  simp only [Segment.OnBitmap] at hp
  rw [htransform]
  exact at_applyPoint_identity (at_of_beq hpx hpy (by omega) (by omega)) (by omega) (by omega)

variable (hwidth : r.pen.style.lineWidth = n.toFloat) (hn : 0 < n)
  (hle : n ≤ max r.pixels.width r.pixels.height)
  (hthin : n ≤ 2 → r.pixels.width ≤ 2 ^ 28 ∧ r.pixels.height ≤ 2 ^ 28) (hpx : px == x₀.toFloat)
  (hpy : py == y₀.toFloat) (hqx : qx == x₁.toFloat) (hqy : qy == y₁.toFloat)
  (hp : Segment.OnBitmap ⟨x₀, y₀⟩ r.pixels) (hq : Segment.OnBitmap ⟨x₁, y₁⟩ r.pixels)

include hwidth hn hle hthin hpx hpy hqx hqy hp hq

theorem not_lineStepsFar : ¬ LineStepsFar r.pen.style r.pixels.width r.pixels.height false
    [r.transform.applyPoint (.ofXY px py), r.transform.applyPoint (.ofXY qx qy)] := by
  rintro ⟨s, hs, hfar⟩
  obtain rfl := List.mem_singleton.1 hs
  have hsame : strokeWidth r.pen.style (Bitmap.blank r.pixels.width r.pixels.height) = n :=
    strokeWidth_eq htransform hwidth hn hle hw hh
  have hstart := at_applyPoint_of_beq htransform hw hh hpx hpy hp
  have hstop := at_applyPoint_of_beq htransform hw hh hqx hqy hq
  rw [hsame] at hfar
  refine Segment.not_stepsFar hstart hstop hp hq hw hh ?_ ?_ hfar
  · dsimp only
    omega
  · intro hradius
    rw [Brush.radius] at hradius
    dsimp only at hradius
    exact hthin (by omega)

theorem strokeSegment32?_eq : r.strokeSegment32? px py qx qy = some (r.strokeSegment px py qx qy) := by
  let traced : Raster := [CanvasCall.beginPath, .moveTo px py, .lineTo qx qy].foldl Raster.apply r
  let ends : List Point := [r.transform.applyPoint (.ofXY px py), r.transform.applyPoint (.ofXY qx qy)]
  have hstroke : traced.stroke32? [(false, ends)] = some (traced.stroke [(false, ends)]) := by
    apply stroke32?_eq
    intro l hl
    rw [List.mem_singleton.1 hl]
    exact not_lineStepsFar htransform hw hh hwidth hn hle hthin hpx hpy hqx hqy hp hq
  exact congrArg (Option.bind · some) hstroke

end Words

variable {p : Pixel} {u : Axis} {length x y : Nat}

/-- Between the ends, and farther from them than the line is wide. -/
theorem strokeSegment_along (htransform : r.transform = Affine.identity)
    (hwidth : r.pen.style.lineWidth = n.toFloat) (halpha : r.pen.style.stroke.alpha = 255)
    (hfits : Segment.Fits ⟨n⟩ p u length r.pixels) (hle : n ≤ max r.pixels.width r.pixels.height)
    (hp : (Point.ofXY px py).At (2 * p.x) (2 * p.y))
    (hq : (Point.ofXY qx qy).At (2 * (p.along u length).x) (2 * (p.along u length).y))
    (hfirst : n < p.ahead u ⟨x, y⟩) (hlast : p.ahead u ⟨x, y⟩ + n < length) :
    (r.strokeSegment px py qx qy).pixels.get? x y = (r.pixels.get? x y).map
      (if -(strokeThickness n / 2 : Nat) ≤ p.aside u ⟨x, y⟩ ∧
        p.aside u ⟨x, y⟩ < strokeThickness n - (strokeThickness n / 2 : Nat) then fun _ => r.pen.style.stroke
        else id) := by
  have hw := hfits.width_lt
  have hh := hfits.height_lt
  obtain ⟨hstart, hstop⟩ := And.intro hfits.start hfits.stop
  rw [Segment.OnBitmap] at hstart hstop
  have hsegment : Segment.Along ⟨r.transform.applyPoint (.ofXY px py), r.transform.applyPoint (.ofXY qx qy)⟩
      p u length := by
    rw [htransform]
    exact ⟨at_applyPoint_identity hp (by omega) (by omega), at_applyPoint_identity hq (by omega) (by omega)⟩
  have hover : Segment.Over ⟨n⟩ (p.aside u ⟨x, y⟩) ↔ -(strokeThickness n / 2 : Nat) ≤ p.aside u ⟨x, y⟩ ∧
      p.aside u ⟨x, y⟩ < strokeThickness n - (strokeThickness n / 2 : Nat) := by
    rw [Segment.Over, thickness_eq hfits.brush_pos]
  rw [strokeSegment_pixels, strokeWidth_eq htransform hwidth hfits.brush_pos hle hw hh,
    Segment.paint_along hsegment hfits halpha hfirst hlast, Segment.blendOver_eq_const halpha]
  simp only [hover]

theorem strokeThickness_le (hn : 0 < n) : 0 < strokeThickness n ∧ strokeThickness n ≤ n := by
  rw [strokeThickness]
  split <;> omega

theorem map_paint {b : Bitmap} {c : Color} {covered strip : Prop} [Decidable covered] [Decidable strip]
    (hsame : covered ↔ strip) (hinside : strip → x < b.width ∧ y < b.height) :
    (b.get? x y).map (if covered then fun _ => c else id) = if strip then some c else b.get? x y := by
  simp only [hsame]
  split
  next hstrip =>
    obtain ⟨old, hold⟩ := Bitmap.exists_get? (hinside hstrip).1 (hinside hstrip).2
    rw [hold, Option.map_some]
  next => exact congrFun Option.map_id _

theorem exists_step {a b x : Nat} (hfirst : min a b + n < x) (hlast : x + n < max a b) :
    ∃ (step : Int) (length : Nat), step.natAbs = 1 ∧ (b : Int) = a + step * length ∧
      (n : Int) < (x - a) * step ∧ (x - a) * step + n < length := by
  rcases Nat.lt_or_ge a b with hlt | hge
  · exact ⟨1, b - a, rfl, by omega, by omega, by omega⟩
  · exact ⟨-1, a - b, rfl, by omega, by omega, by omega⟩

variable (htransform : r.transform = Affine.identity) (hwidth : r.pen.style.lineWidth = n.toFloat)
  (halpha : r.pen.style.stroke.alpha = 255) (hn : 0 < n) (hw : r.pixels.width < 2 ^ 31)
  (hh : r.pixels.height < 2 ^ 31)

include htransform hwidth halpha hn hw hh

theorem strokeSegment_level {x₀ x₁ : Nat} (hpx : px == x₀.toFloat) (hqx : qx == x₁.toFloat)
    (hpy : py == y.toFloat) (hqy : qy == y.toFloat) (hx₀ : x₀ ≤ r.pixels.width) (hx₁ : x₁ ≤ r.pixels.width)
    (htop : n / 2 ≤ y) (hbottom : y - n / 2 + n ≤ r.pixels.height) (hfirst : min x₀ x₁ + n < x)
    (hlast : x + n < max x₀ x₁) (row : Nat) :
    (r.strokeSegment px py qx qy).pixels.get? x row =
      if y - strokeThickness n / 2 ≤ row ∧ row < y - strokeThickness n / 2 + strokeThickness n then
        some r.pen.style.stroke
      else r.pixels.get? x row := by
  obtain ⟨hthick, hthin⟩ := strokeThickness_le hn
  obtain ⟨step, length, hstep, hend, hahead, hrest⟩ := exists_step hfirst hlast
  have hstop : (⟨x₀, y⟩ : Pixel).along ⟨step, 0, .inl ⟨rfl, hstep⟩⟩ length = ⟨x₁, y⟩ := by
    rw [Pixel.along, ← hend, Int.zero_mul, Int.add_zero]
  have hfits : Segment.Fits ⟨n⟩ ⟨x₀, y⟩ ⟨step, 0, .inl ⟨rfl, hstep⟩⟩ length r.pixels := by
    refine ⟨?_, ?_, fun _ => by dsimp only; omega, fun h => by dsimp only at h; omega, hw, hh, hn,
      by dsimp only; omega⟩
    · simp only [Segment.OnBitmap]
      omega
    · simp only [hstop, Segment.OnBitmap]
      omega
  have hp := at_of_beq hpx hpy (by omega) (by omega)
  have hq := at_of_beq hqx hqy (by omega) (by omega)
  have hpainted := strokeSegment_along (x := x) (y := row) htransform hwidth halpha hfits (by omega) hp
    (by rwa [hstop]) (by simpa [Pixel.ahead] using hahead) (by simpa [Pixel.ahead] using hrest)
  rw [hpainted]
  apply map_paint
  · rw [Pixel.aside, if_pos rfl]
    dsimp only
    omega
  · omega

theorem strokeSegment_upright {y₀ y₁ : Nat} (hpy : py == y₀.toFloat) (hqy : qy == y₁.toFloat)
    (hpx : px == x.toFloat) (hqx : qx == x.toFloat) (hy₀ : y₀ ≤ r.pixels.height) (hy₁ : y₁ ≤ r.pixels.height)
    (hleft : n / 2 ≤ x) (hright : x - n / 2 + n ≤ r.pixels.width) (hfirst : min y₀ y₁ + n < y)
    (hlast : y + n < max y₀ y₁) (column : Nat) :
    (r.strokeSegment px py qx qy).pixels.get? column y =
      if x - strokeThickness n / 2 ≤ column ∧ column < x - strokeThickness n / 2 + strokeThickness n then
        some r.pen.style.stroke
      else r.pixels.get? column y := by
  obtain ⟨hthick, hthin⟩ := strokeThickness_le hn
  obtain ⟨step, length, hstep, hend, hahead, hrest⟩ := exists_step hfirst hlast
  have hstop : (⟨x, y₀⟩ : Pixel).along ⟨0, step, .inr ⟨rfl, hstep⟩⟩ length = ⟨x, y₁⟩ := by
    rw [Pixel.along, ← hend, Int.zero_mul, Int.add_zero]
  have hfits : Segment.Fits ⟨n⟩ ⟨x, y₀⟩ ⟨0, step, .inr ⟨rfl, hstep⟩⟩ length r.pixels := by
    refine ⟨?_, ?_, fun h => by dsimp only at h; omega, fun _ => by dsimp only; omega, hw, hh, hn,
      by dsimp only; omega⟩
    · simp only [Segment.OnBitmap]
      omega
    · simp only [hstop, Segment.OnBitmap]
      omega
  have hp := at_of_beq hpx hpy (by omega) (by omega)
  have hq := at_of_beq hqx hqy (by omega) (by omega)
  have hpainted := strokeSegment_along (x := column) (y := y) htransform hwidth halpha hfits (by omega) hp
    (by rwa [hstop]) (by simpa [Pixel.ahead] using hahead) (by simpa [Pixel.ahead] using hrest)
  rw [hpainted]
  apply map_paint
  · have hne : step ≠ 0 := by omega
    rw [Pixel.aside, if_neg hne]
    dsimp only
    omega
  · omega

end Segments

/-- A straight stroke comes out as many pixels wide as its line is, but a width of two comes out as one. -/
theorem stroke_thickness (r : Raster) (n : Nat) (hn : 0 < n) (htransform : r.transform = Affine.identity)
    (hwidth : r.pen.style.lineWidth = n.toFloat) (halpha : r.pen.style.stroke.alpha = 255)
    (hw : r.pixels.width < 2 ^ 31) (hh : r.pixels.height < 2 ^ 31)
    (hthin : n ≤ 2 → r.pixels.width ≤ 2 ^ 28 ∧ r.pixels.height ≤ 2 ^ 28) :
    (∀ (x₀ x₁ y : Nat) (px qx py qy : Float), px == x₀.toFloat → qx == x₁.toFloat → py == y.toFloat →
      qy == y.toFloat → x₀ ≤ r.pixels.width → x₁ ≤ r.pixels.width → n / 2 ≤ y →
      y - n / 2 + n ≤ r.pixels.height → r.strokeSegment32? px py qx qy = some (r.strokeSegment px py qx qy) ∧
      ∀ x, min x₀ x₁ + n < x → x + n < max x₀ x₁ → ∀ row,
      (r.strokeSegment px py qx qy).pixels.get? x row =
        if y - strokeThickness n / 2 ≤ row ∧ row < y - strokeThickness n / 2 + strokeThickness n then
          some r.pen.style.stroke
        else r.pixels.get? x row) ∧
    ∀ (y₀ y₁ x : Nat) (px qx py qy : Float), py == y₀.toFloat → qy == y₁.toFloat → px == x.toFloat →
      qx == x.toFloat → y₀ ≤ r.pixels.height → y₁ ≤ r.pixels.height → n / 2 ≤ x →
      x - n / 2 + n ≤ r.pixels.width → r.strokeSegment32? px py qx qy = some (r.strokeSegment px py qx qy) ∧
      ∀ y, min y₀ y₁ + n < y → y + n < max y₀ y₁ → ∀ column,
      (r.strokeSegment px py qx qy).pixels.get? column y =
        if x - strokeThickness n / 2 ≤ column ∧ column < x - strokeThickness n / 2 + strokeThickness n then
          some r.pen.style.stroke
        else r.pixels.get? column y := by
  constructor
  · intro x₀ x₁ y px qx py qy hpx hqx hpy hqy hx₀ hx₁ htop hbottom
    refine ⟨?_, fun x hfirst hlast row => ?_⟩
    · apply strokeSegment32?_eq htransform hw hh hwidth hn (by omega) hthin hpx hpy hqx hqy
      · simp only [Segment.OnBitmap]
        omega
      · simp only [Segment.OnBitmap]
        omega
    · exact strokeSegment_level htransform hwidth halpha hn hw hh hpx hqx hpy hqy hx₀ hx₁ htop hbottom hfirst
        hlast row
  · intro y₀ y₁ x px qx py qy hpy hqy hpx hqx hy₀ hy₁ hleft hright
    refine ⟨?_, fun y hfirst hlast column => ?_⟩
    · apply strokeSegment32?_eq htransform hw hh hwidth hn (by omega) hthin hpx hpy hqx hqy
      · simp only [Segment.OnBitmap]
        omega
      · simp only [Segment.OnBitmap]
        omega
    · exact strokeSegment_upright htransform hwidth halpha hn hw hh hpy hqy hpx hqx hy₀ hy₁ hleft hright hfirst
        hlast column

theorem stroke_thickness_three :
    (lined 13 13 3).strokeSegment32? 0 6 12 6 = some ((lined 13 13 3).strokeSegment 0 6 12 6) ∧
    (∀ row, ((lined 13 13 3).strokeSegment 0 6 12 6).pixels.get? 6 row =
      if 5 ≤ row ∧ row < 8 then some Color.black else (lined 13 13 3).pixels.get? 6 row) ∧
    ∀ column, ((lined 13 13 3).strokeSegment 6 12 6 0).pixels.get? column 6 =
      if 5 ≤ column ∧ column < 8 then some Color.black else (lined 13 13 3).pixels.get? column 6 := by
  obtain ⟨hlevel, hupright⟩ := stroke_thickness (lined 13 13 3) 3 (by decide) (by decide +kernel)
    (by decide +kernel) (by decide +kernel) (by decide +kernel) (by decide +kernel) (by decide)
  obtain ⟨hruns, hrows⟩ := hlevel 0 12 6 0 12 6 6 (by decide +kernel) (by decide +kernel) (by decide +kernel)
    (by decide +kernel) (by decide +kernel) (by decide +kernel) (by decide) (by decide +kernel)
  obtain ⟨-, hcolumns⟩ := hupright 12 0 6 6 6 12 0 (by decide +kernel) (by decide +kernel) (by decide +kernel)
    (by decide +kernel) (by decide +kernel) (by decide +kernel) (by decide) (by decide +kernel)
  exact ⟨hruns, hrows 6 (by decide) (by decide), hcolumns 6 (by decide) (by decide)⟩

/-- A line of two pixels takes up one row. -/
theorem stroke_two_one_row :
    ((List.range 5).filter fun row =>
      ((lined 20 5 2).strokeSegment 2 2 12 2).pixels.get? 7 row = some Color.black) = [2] := by
  decide +kernel

end Raster

end BandCanvas
