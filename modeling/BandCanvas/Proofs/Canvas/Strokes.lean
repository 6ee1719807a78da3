import BandCanvas.Canvas.Raster
import BandCanvas.Proofs.Canvas.Box
import BandCanvas.Proofs.Canvas.Brush
import BandCanvas.Proofs.Canvas.Stepping
import BandCanvas.Proofs.Canvas.Words
import BandCanvas.Proofs.Number.Length

namespace BandCanvas

open Binary64

namespace Segment

section Clip

variable {s : Segment} {approach gap minimum maxX maxY : Float} {i j a b c d w h m : Int}

theorem passed_le_zero (happroach : Halves approach i) (hgap : Halves gap j) (hi : i < 0) (hj : 0 ≤ j) :
    value (gap / approach) ≤ 0 := by
  have hround := hgap.rounded_div happroach (by omega)
  have hi' : (i : ℚ) < 0 := by exact_mod_cast hi
  have hj' : (0 : ℚ) ≤ j := by exact_mod_cast hj
  have hle : value (gap / approach) ≤ value 0 := by
    apply hround.le_value halves_zero.not_isNaN
    rw [value_zero]
    exact div_nonpos_of_nonneg_of_nonpos hj' hi'.le
  rwa [value_zero] at hle

theorem one_le_passed (happroach : Halves approach i) (hgap : Halves gap j) (hi : 0 < i) (hij : i ≤ j) :
    1 ≤ value (gap / approach) := by
  have hround := hgap.rounded_div happroach (by omega)
  have hi' : (0 : ℚ) < i := by exact_mod_cast hi
  have hij' : (i : ℚ) ≤ j := by exact_mod_cast hij
  have hle : value 1 ≤ value (gap / approach) := by
    apply hround.value_le halves_one.not_isNaN
    rw [value_one]
    exact (one_le_div hi').2 hij'
  rwa [value_one] at hle

/-- A side cuts nothing off a line that stays inside it. -/
theorem clipSide_whole (happroach : Halves approach i) (hgap : Halves gap j) (hj : 0 ≤ j) (hij : i ≤ j) :
    clipSide approach gap (some (0, 1)) = some (0, 1) := by
  have hzero : (0 : Float).isNaN = false := halves_zero.not_isNaN
  have hone : (1 : Float).isNaN = false := halves_one.not_isNaN
  have hgap' : ¬ gap < 0 := by
    rw [hgap.lt_iff halves_zero]
    omega
  rw [clipSide]
  by_cases hi : i = 0
  · have hbeq : (approach == 0) = true := (happroach.beq_iff halves_zero).2 hi
    rw [if_pos hbeq, if_neg hgap']
  · have hbeq : ¬ (approach == 0) = true := by rwa [happroach.beq_iff halves_zero]
    have hnan := (hgap.rounded_div happroach hi).not_isNaN
    rw [if_neg hbeq]
    dsimp only
    rcases Int.lt_or_gt_of_ne hi with hneg | hpos
    · have hle := passed_le_zero happroach hgap hneg hj
      have hbelow : ¬ gap / approach > 1 := by
        rw [gt_iff_lt, value_lt_iff hone hnan, value_one]
        linarith
      have hbelow' : ¬ 0 < gap / approach := by
        rw [value_lt_iff hzero hnan, value_zero]
        exact not_lt.2 hle
      rw [if_pos ((happroach.lt_iff halves_zero).2 hneg), if_neg hbelow, greatest, hzero, Bool.false_or,
        if_neg (by simpa using hbelow')]
    · have hle := one_le_passed happroach hgap hpos hij
      have habove : ¬ gap / approach < 0 := by
        rw [value_lt_iff hnan hzero, value_zero]
        linarith
      have habove' : ¬ gap / approach < 1 := by
        rw [value_lt_iff hnan hone, value_one]
        exact not_lt.2 hle
      have hright : ¬ approach < 0 := by
        rw [happroach.lt_iff halves_zero]
        omega
      rw [if_neg hright, if_neg habove, least, hone, Bool.false_or, if_neg (by simpa using habove')]

theorem clip?_inside (hstart : s.start.At a c) (hstop : s.stop.At b d) (ha : 0 ≤ a ∧ a ≤ w)
    (hb : 0 ≤ b ∧ b ≤ w) (hc : 0 ≤ c ∧ c ≤ h) (hd : 0 ≤ d ∧ d ≤ h) (hw : w < 2 ^ 40) (hh : h < 2 ^ 40)
    (hm : 0 ≤ m ∧ m < 2 ^ 40) (hmin : Halves minimum (-m)) (hmaxX : Halves maxX (w + m))
    (hmaxY : Halves maxY (h + m)) :
    ∃ s', s.clip? minimum minimum maxX maxY = some s' ∧ s'.start.At a c ∧ s'.stop.At b d := by
  have hdx := hstop.x.sub hstart.x (by omega)
  have hdy := hstop.y.sub hstart.y (by omega)
  have hfinite : (s.start.isFinite && s.stop.isFinite) = true := by
    simp only [Point.isFinite, hstart.x.isFinite, hstart.y.isFinite, hstop.x.isFinite, hstop.y.isFinite,
      Bool.and_self]
  have hleft := clipSide_whole hdx.neg (hstart.x.sub hmin (by omega)) (by omega) (by omega)
  have hright := clipSide_whole hdx (hmaxX.sub hstart.x (by omega)) (by omega) (by omega)
  have htop := clipSide_whole hdy.neg (hstart.y.sub hmin (by omega)) (by omega) (by omega)
  have hbottom := clipSide_whole hdy (hmaxY.sub hstart.y (by omega)) (by omega) (by omega)
  have hfirst {x y : Float} {k l : Int} (hx : Halves x k) (hy : Halves y l) (hk : k.natAbs < 2 ^ 51) :
      Halves (x + 0 * y) k := by
    have hsum := hx.add (halves_zero.mul (a := 0) hy (by omega)) (by omega)
    rwa [Int.zero_mul, Int.add_zero] at hsum
  have hlast {x y : Float} {k l : Int} (hx : Halves x k) (hy : Halves y (l - k)) (hk : k.natAbs < 2 ^ 51)
      (hl : l.natAbs < 2 ^ 51) : Halves (x + 1 * y) l := by
    have hsum := hx.add (halves_one.mul (a := 1) hy (by omega)) (by omega)
    rwa [Int.one_mul, add_sub_cancel] at hsum
  simp only [clip?, hfinite, if_true, hleft, hright, htop, hbottom, Option.map_some]
  exact ⟨_, rfl, ⟨hfirst hstart.x hdx (by omega), hfirst hstart.y hdy (by omega)⟩,
    ⟨hlast hstart.x hdx (by omega) (by omega), hlast hstart.y hdy (by omega) (by omega)⟩⟩

end Clip

/-- A segment along an axis, from pixel to pixel. -/
structure Along (s : Segment) (p : Pixel) (u : Axis) (length : Nat) : Prop where
  start : s.start.At (2 * p.x) (2 * p.y)
  stop : s.stop.At (2 * (p.along u length).x) (2 * (p.along u length).y)

section Body

variable {s : Segment} {p : Pixel} {u : Axis} {length n : Nat}

/-- The corners of the body of a wide segment lie to the sides of its ends by half its width. -/
theorem body_along (h : s.Along p u length) (hpos : 0 < length) (hlength : length < 2 ^ 32)
    (hn : n < 2 ^ 32) (hx : p.x.natAbs < 2 ^ 32) (hy : p.y.natAbs < 2 ^ 32) :
    ∃ p₁ p₂ p₃ p₄ : Point, s.body n = [p₁, p₂, p₃, p₄] ∧
      p₁.At (2 * p.x + 1 - u.y * n) (2 * p.y + 1 + u.x * n) ∧
      p₂.At (2 * (p.along u length).x + 1 - u.y * n) (2 * (p.along u length).y + 1 + u.x * n) ∧
      p₃.At (2 * (p.along u length).x + 1 + u.y * n) (2 * (p.along u length).y + 1 - u.x * n) ∧
      p₄.At (2 * p.x + 1 + u.y * n) (2 * p.y + 1 - u.x * n) := by
  obtain ⟨hlongX, hlongY⟩ := u.natAbs_mul_le length
  obtain ⟨hwideX, hwideY⟩ := u.natAbs_mul_le n
  have hunit := u.straight
  have hendX : (p.along u length).x = p.x + u.x * length := rfl
  have hendY : (p.along u length).y = p.y + u.y * length := rfl
  have hdx : Halves (s.stop.x - s.start.x) (u.x * (2 * length)) :=
    (h.stop.x.sub h.start.x (by omega)).congr (by rw [hendX]; ring)
  have hdy : Halves (s.stop.y - s.start.y) (u.y * (2 * length)) :=
    (h.stop.y.sub h.start.y (by omega)).congr (by rw [hendY]; ring)
  have hhypot : Halves (hypot (s.stop.x - s.start.x) (s.stop.y - s.start.y)) (2 * length) :=
    hdx.hypot hdy (halves_toFloat (by omega)) (by omega)
      (by linear_combination (2 * length : Int) ^ 2 * u.sq_add_sq)
  have hhalf : Halves (n.toFloat / 2) n := (halves_toFloat (by omega)).div_two (by omega)
  have hny := (hdx.div hhypot (by omega) (by omega)).mul hhalf (by omega)
  have hnx : Halves (-(s.stop.y - s.start.y) / hypot (s.stop.x - s.start.x) (s.stop.y - s.start.y) *
      (n.toFloat / 2)) (-(u.y * n)) := by
    have hquot := (hdy.neg.congr (Int.neg_mul ..).symm).div hhypot (by omega) (by omega)
    exact (hquot.mul hhalf (by rw [neg_mul]; omega)).congr (neg_mul ..)
  have hgt : hypot (s.stop.x - s.start.x) (s.stop.y - s.start.y) > 0 :=
    (halves_zero.lt_iff hhypot).2 (by omega)
  have hcorner {x d : Float} {i j : Int} (hx : Halves x (2 * i)) (hd : Halves d j) (hi : i.natAbs < 2 ^ 34)
      (hj : j.natAbs < 2 ^ 34) :
      Halves (x + 0.5 + d) (2 * i + 1 + j) ∧ Halves (x + 0.5 - d) (2 * i + 1 - j) := by
    have hcentre := hx.add halves_half (by omega)
    exact ⟨hcentre.add hd (by omega), hcentre.sub hd (by omega)⟩
  have hstartX := hcorner h.start.x hnx (by omega) (by omega)
  have hstartY := hcorner h.start.y hny (by omega) (by omega)
  have hstopX := hcorner h.stop.x hnx (by omega) (by omega)
  have hstopY := hcorner h.stop.y hny (by omega) (by omega)
  simp only [body, if_pos hgt]
  rw [← sub_eq_add_neg, sub_neg_eq_add] at hstartX hstopX
  exact ⟨_, _, _, _, rfl, ⟨hstartX.1, hstartY.1⟩, ⟨hstopX.1, hstopY.1⟩, ⟨hstopX.2, hstopY.2⟩,
    ⟨hstartX.2, hstartY.2⟩⟩

variable {box : Box}

theorem exists_body_box (p : Pixel) (u : Axis) (length : Nat) (hpos : 0 < length) (hwidth : 0 < n)
    (hn : n < 2 ^ 32) (hx : 0 ≤ p.x ∧ p.x < 2 ^ 32) (hy : 0 ≤ p.y ∧ p.y < 2 ^ 32)
    (hendX : 0 ≤ (p.along u length).x ∧ (p.along u length).x < 2 ^ 32)
    (hendY : 0 ≤ (p.along u length).y ∧ (p.along u length).y < 2 ^ 32) (hlevel : u.y = 0 → n ≤ 2 * p.y + 1)
    (hupright : u.x = 0 → n ≤ 2 * p.x + 1) :
    ∃ box : Box, box.Spans (2 * p.x + 1 - u.y * n) (2 * (p.along u length).x + 1 + u.y * n)
      (2 * p.y + 1 + u.x * n) (2 * (p.along u length).y + 1 - u.x * n) := by
  rw [Pixel.along] at hendX hendY ⊢
  dsimp only at hendX hendY ⊢
  apply Box.exists_spans <;>
    rcases u.directions with ⟨hu, hu'⟩ | ⟨hu, hu'⟩ | ⟨hu, hu'⟩ | ⟨hu, hu'⟩ <;>
      simp only [hu, hu', Int.reduceEq, Int.reduceNeg, forall_const] at hendX hendY hlevel hupright ⊢ <;> omega

theorem body_outlined (h : s.Along p u length) (hpos : 0 < length) (hlength : length < 2 ^ 32)
    (hn : n < 2 ^ 32) (hx : p.x.natAbs < 2 ^ 32) (hy : p.y.natAbs < 2 ^ 32)
    (hbox : box.Spans (2 * p.x + 1 - u.y * n) (2 * (p.along u length).x + 1 + u.y * n)
      (2 * p.y + 1 + u.x * n) (2 * (p.along u length).y + 1 - u.x * n)) :
    box.Outlined (Edge.ofOutline (s.body n)) := by
  obtain ⟨p₁, p₂, p₃, p₄, hbody, h₁, h₂, h₃, h₄⟩ := body_along h hpos hlength hn hx hy
  rw [hbody]
  rcases u.straight with ⟨hu, -⟩ | ⟨hu, -⟩ <;>
    simp only [Pixel.along, hu, zero_mul, add_zero, sub_zero] at h₁ h₂ h₃ h₄ hbox
  · exact Box.outlined_level hbox h₁ h₂ h₃ h₄
  · exact Box.outlined_upright hbox h₁ h₂ h₃ h₄

/-- Between the ends the body of a wide segment is as wide as the segment is. -/
theorem contains_body_iff (hbox : box.Spans (2 * p.x + 1 - u.y * n) (2 * (p.along u length).x + 1 + u.y * n)
      (2 * p.y + 1 + u.x * n) (2 * (p.along u length).y + 1 - u.x * n)) {x y : Nat}
    (hfirst : 0 < p.ahead u ⟨x, y⟩) (hlast : p.ahead u ⟨x, y⟩ < length) :
    box.Contains x y ↔ -(n / 2 : Nat) ≤ p.aside u ⟨x, y⟩ ∧ p.aside u ⟨x, y⟩ < n - (n / 2 : Nat) := by
  obtain ⟨hleft, hright, htop, hbottom⟩ := hbox
  simp only [Pixel.along, Pixel.ahead, Pixel.aside, Box.Contains] at *
  rcases u.directions with ⟨hu, hu'⟩ | ⟨hu, hu'⟩ | ⟨hu, hu'⟩ | ⟨hu, hu'⟩ <;>
    simp only [hu, hu', Int.reduceEq, Int.reduceNeg, if_true, if_false] at * <;> omega

end Body

section Paint

variable {s : Segment} {p q : Pixel} {u : Axis} {length : Nat} {brush : Brush} {color : Color} {b : Bitmap}

theorem ofPoint_eq {point : Point} (h : point.At (2 * p.x) (2 * p.y)) (hx : 0 ≤ p.x ∧ p.x < 2 ^ 31)
    (hy : 0 ≤ p.y ∧ p.y < 2 ^ 31) : Pixel.ofPoint point = p := by
  have hfloor {x : Float} {i : Int} (h : Halves x (2 * i)) (hi : 0 ≤ i ∧ i < 2 ^ 31) : toInt32 (floor x) = i := by
    obtain ⟨n, rfl⟩ := Int.eq_ofNat_of_zero_le hi.1
    have hwhole := (halves_floor h (by omega) (by omega)).congr (j := 2 * n) (by omega)
    exact hwhole.toInt32_eq (by omega)
  rw [Pixel.ofPoint, hfloor h.x hx, hfloor h.y hy]

theorem not_covers_of_far (h : (brush.radius : Int) < (p.ahead u q).natAbs) : brush.covers p q = false := by
  apply Bool.eq_false_of_not_eq_true
  intro hcovers
  obtain ⟨hx, hy⟩ := Brush.near_of_covers hcovers
  have := Pixel.natAbs_ahead_le (u := u) hx hy
  omega

def thickness (brush : Brush) : Nat :=
  if brush.radius = 0 then 1 else brush.width

/-- Whether a stroke comes over a pixel, by the place of the pixel to the side of the line. -/
def Over (brush : Brush) (aside : Int) : Prop :=
  -(thickness brush / 2 : Nat) ≤ aside ∧ aside < thickness brush - (thickness brush / 2 : Nat)

instance (brush : Brush) (aside : Int) : Decidable (Over brush aside) :=
  inferInstanceAs (Decidable (_ ∧ _))

def OnBitmap (p : Pixel) (b : Bitmap) : Prop :=
  (0 ≤ p.x ∧ p.x ≤ b.width) ∧ 0 ≤ p.y ∧ p.y ≤ b.height

/-- A line on a bitmap with room for the brush to its sides. -/
structure Fits (brush : Brush) (p : Pixel) (u : Axis) (length : Nat) (b : Bitmap) : Prop where
  start : OnBitmap p b
  stop : OnBitmap (p.along u length) b
  level : u.y = 0 → (brush.width / 2 : Nat) ≤ p.y
  upright : u.x = 0 → (brush.width / 2 : Nat) ≤ p.x
  width_lt : b.width < 2 ^ 31
  height_lt : b.height < 2 ^ 31
  brush_pos : 0 < brush.width
  brush_lt : brush.width < 2 ^ 32

theorem Fits.length_lt (h : Fits brush p u length b) : length < 2 ^ 31 := by
  obtain ⟨hstart, hstop, -, -, hw, hh, -, -⟩ := h
  rw [OnBitmap] at hstart hstop
  rw [Pixel.along] at hstop
  rcases u.directions with ⟨hu, hu'⟩ | ⟨hu, hu'⟩ | ⟨hu, hu'⟩ | ⟨hu, hu'⟩ <;>
    simp only [hu, hu'] at hstop <;> omega

theorem blendOver_eq_const (h : color.alpha = 255) : color.blendOver = fun _ => color := by
  funext lower
  rw [Color.blendOver, h, if_neg (by decide), if_pos rfl]

theorem paintThin (halpha : color.alpha = 255) {x y : Nat}
    (hfirst : 0 ≤ p.ahead u ⟨x, y⟩) (hlast : p.ahead u ⟨x, y⟩ ≤ length) :
    ((Pixel.line p (p.along u length)).foldl (fun b p => b.modifyPixel color.blendOver p) b).get? x y =
      (b.get? x y).map (if p.aside u ⟨x, y⟩ = 0 then color.blendOver else id) := by
  have hsame : color.blendOver ∘ color.blendOver = color.blendOver := by
    rw [blendOver_eq_const halpha]
    rfl
  rw [(Bitmap.foldl_modifyPixel_changed hsame _ b).get?_eq]
  simp only [Pixel.mem_line_iff hfirst hlast]

theorem paintWide (h : s.Along p u length) (hfits : Fits brush p u length b) {x y : Nat}
    (hfirst : brush.width < p.ahead u ⟨x, y⟩) (hlast : p.ahead u ⟨x, y⟩ + brush.width < length) :
    (brush.stamp color (p.along u length)
      (brush.stamp color p (b.fillOutlines color.blendOver [s.body brush.width]))).get? x y =
        (b.get? x y).map (if -(brush.width / 2 : Nat) ≤ p.aside u ⟨x, y⟩ ∧
          p.aside u ⟨x, y⟩ < brush.width - (brush.width / 2 : Nat) then color.blendOver else id) := by
  have hlong := hfits.length_lt
  obtain ⟨hstart, hstop, hlevel, hupright, hw, hh, hpos, hlt⟩ := hfits
  rw [OnBitmap] at hstart hstop
  obtain ⟨box, hbox⟩ := exists_body_box p u length (by omega) hpos hlt (by omega) (by omega) (by omega)
    (by omega) (fun hu => by have := hlevel hu; omega) (fun hu => by have := hupright hu; omega)
  have hedges : box.Outlined ([s.body brush.width].flatMap Edge.ofOutline) := by
    rw [List.flatMap_singleton]
    exact body_outlined h (by omega) (by omega) hlt (by omega) (by omega) hbox
  have hradius : brush.radius < brush.width := by
    rw [Brush.radius]
    omega
  have hnear : brush.covers p ⟨x, y⟩ = false := not_covers_of_far (u := u) (by omega)
  have hnear' : brush.covers (p.along u length) ⟨x, y⟩ = false := by
    apply not_covers_of_far (u := u)
    rw [Pixel.ahead_along]
    omega
  have hfill := Box.fill_changed hedges color.blendOver (show b.width < 2 ^ 40 by omega) (by omega)
  rw [(Brush.stamp_changed ..).get?_eq, (Brush.stamp_changed ..).get?_eq, hfill.get?_eq, hnear, hnear']
  simp only [Bool.false_eq_true, if_false, Option.map_id, id, Box.change,
    contains_body_iff hbox (show 0 < p.ahead u ⟨x, y⟩ by omega) (by omega)]

theorem paintClipped_along (h : s.Along p u length) (hfits : Fits brush p u length b)
    (halpha : color.alpha = 255) {x y : Nat} (hfirst : brush.width < p.ahead u ⟨x, y⟩)
    (hlast : p.ahead u ⟨x, y⟩ + brush.width < length) :
    (s.paintClipped brush color b).get? x y =
      (b.get? x y).map (if Over brush (p.aside u ⟨x, y⟩) then color.blendOver else id) := by
  have hw := hfits.width_lt
  have hh := hfits.height_lt
  obtain ⟨hstart, hstop⟩ := And.intro hfits.start hfits.stop
  rw [OnBitmap] at hstart hstop
  rw [paintClipped, ofPoint_eq h.start (by omega) (by omega), ofPoint_eq h.stop (by omega) (by omega)]
  by_cases hthin : brush.radius = 0
  · have hover : Over brush (p.aside u ⟨x, y⟩) ↔ p.aside u ⟨x, y⟩ = 0 := by
      rw [Over, thickness, if_pos hthin]
      omega
    simp only [if_pos hthin, hover]
    exact paintThin halpha (by omega) (by omega)
  · have hover : Over brush (p.aside u ⟨x, y⟩) ↔ -(brush.width / 2 : Nat) ≤ p.aside u ⟨x, y⟩ ∧
        p.aside u ⟨x, y⟩ < brush.width - (brush.width / 2 : Nat) := by
      rw [Over, thickness, if_neg hthin]
    simp only [if_neg hthin, hover]
    exact paintWide h hfits hfirst hlast

theorem clipped?_inside (hstart : s.start.At (2 * p.x) (2 * p.y)) (hstop : s.stop.At (2 * q.x) (2 * q.y))
    (hp : OnBitmap p b) (hq : OnBitmap q b) (hw : b.width < 2 ^ 31) (hh : b.height < 2 ^ 31)
    (hbrush : brush.width < 2 ^ 32) : ∃ s', s.clipped? brush b.width b.height = some s' ∧
      s'.start.At (2 * p.x) (2 * p.y) ∧ s'.stop.At (2 * q.x) (2 * q.y) := by
  rw [OnBitmap] at hp hq
  have hradius : brush.radius < 2 ^ 32 := by
    rw [Brush.radius]
    omega
  have hmargin : Halves (brush.radius.toFloat + 2) (2 * brush.radius + 4) :=
    (halves_toFloat (by omega)).add halves_two (by omega)
  exact clip?_inside (w := 2 * b.width) (h := 2 * b.height) hstart hstop (by omega) (by omega) (by omega)
    (by omega) (by omega) (by omega) (by omega) hmargin.neg
    ((halves_toFloat (by omega)).add hmargin (by omega)) ((halves_toFloat (by omega)).add hmargin (by omega))

theorem paint_along (h : s.Along p u length) (hfits : Fits brush p u length b) (halpha : color.alpha = 255)
    {x y : Nat} (hfirst : brush.width < p.ahead u ⟨x, y⟩) (hlast : p.ahead u ⟨x, y⟩ + brush.width < length) :
    (s.paint brush color b).get? x y =
      (b.get? x y).map (if Over brush (p.aside u ⟨x, y⟩) then color.blendOver else id) := by
  obtain ⟨s', hclipped, hstart', hstop'⟩ := clipped?_inside h.start h.stop hfits.start hfits.stop
    hfits.width_lt hfits.height_lt hfits.brush_lt
  simp only [paint, hclipped]
  exact paintClipped_along ⟨hstart', hstop'⟩ hfits halpha hfirst hlast

/-- On a small bitmap no thin line is stepped too far out. -/
theorem not_stepsFar (hstart : s.start.At (2 * p.x) (2 * p.y)) (hstop : s.stop.At (2 * q.x) (2 * q.y))
    (hp : OnBitmap p b) (hq : OnBitmap q b) (hw : b.width < 2 ^ 31) (hh : b.height < 2 ^ 31)
    (hbrush : brush.width < 2 ^ 32) (hsmall : brush.radius = 0 → b.width ≤ 2 ^ 28 ∧ b.height ≤ 2 ^ 28) :
    ¬ s.StepsFar brush b.width b.height := by
  obtain ⟨s', hclipped, hstart', hstop'⟩ := clipped?_inside hstart hstop hp hq hw hh hbrush
  rintro ⟨hthin, s'', hclipped', hfar⟩
  obtain rfl := Option.some.inj (hclipped.symm.trans hclipped')
  obtain ⟨hsmallX, hsmallY⟩ := hsmall hthin
  rw [OnBitmap] at hp hq
  apply hfar
  rw [ofPoint_eq hstart' (by omega) (by omega), ofPoint_eq hstop' (by omega) (by omega), Pixel.Within, Pixel.Within]
  omega

end Paint

end Segment

end BandCanvas
