import BandCanvas.Proofs.Canvas.Changes
import BandCanvas.Proofs.Number.Halves

namespace BandCanvas

open Binary64

/-- A point with coordinates in halves. -/
structure Point.At (p : Point) (x y : Int) : Prop where
  x : Halves p.x x
  y : Halves p.y y

/-- A box, in halves. The bound is far more than the edges of a canvas are long; sums of such coordinates
are exact. -/
structure Box where
  left : Nat
  right : Nat
  top : Nat
  bottom : Nat
  left_lt : left < right
  top_lt : top < bottom
  right_lt : right < 2 ^ 40
  bottom_lt : bottom < 2 ^ 40

/-- An edge at one column that runs over the rows of a box. -/
structure Edge.Upright (e : Edge) (x : Int) (box : Box) : Prop where
  upper : e.upper.At x box.top
  lower : e.lower.At x box.bottom
  winding : e.winding ≠ 0

structure Crossing.At (c : Crossing) (x : Int) : Prop where
  x : Halves c.x x
  winding : c.winding ≠ 0

namespace Box

/-- `(a, c)` and `(b, d)` are opposite corners of the box. -/
structure Spans (box : Box) (a b c d : Int) : Prop where
  left_eq : box.left = min a b
  right_eq : box.right = max a b
  top_eq : box.top = min c d
  bottom_eq : box.bottom = max c d

theorem exists_spans {a b c d : Int} (hab : a ≠ b) (hcd : c ≠ d) (hleft : 0 ≤ min a b) (htop : 0 ≤ min c d)
    (hright : max a b < 2 ^ 40) (hbottom : max c d < 2 ^ 40) : ∃ box : Box, box.Spans a b c d :=
  ⟨⟨(min a b).toNat, (max a b).toNat, (min c d).toNat, (max c d).toNat, by omega, by omega, by omega, by omega⟩,
    Int.toNat_of_nonneg hleft, Int.toNat_of_nonneg (by omega), Int.toNat_of_nonneg htop,
    Int.toNat_of_nonneg (by omega)⟩

def Contains (box : Box) (x y : Nat) : Prop :=
  (box.left ≤ 2 * x + 1 ∧ 2 * x + 1 < box.right) ∧ box.top ≤ 2 * y + 1 ∧ 2 * y + 1 < box.bottom

instance (box : Box) (x y : Nat) : Decidable (box.Contains x y) :=
  inferInstanceAs (Decidable (_ ∧ _))

/-- The two upright edges of a box, in either order. -/
inductive Outlined (box : Box) : List Edge → Prop
  | leftFirst {e e' : Edge} (h : e.Upright box.left box) (h' : e'.Upright box.right box) : Outlined box [e, e']
  | rightFirst {e e' : Edge} (h : e.Upright box.right box) (h' : e'.Upright box.left box) : Outlined box [e, e']

section Edges

variable {box : Box} {p q p' q' : Point} {x x' a b c d : Int} {e e' : Edge}

theorem between?_level (hp : p.At x c) (hq : q.At x' c) : Edge.between? p q = none := by
  rw [Edge.between?, if_pos ((hp.y.beq_iff hq.y).2 rfl)]

theorem between?_upright (h : box.Spans a b c d) (hp : p.At x c) (hq : q.At x d) :
    ∃ e, Edge.between? p q = some e ∧ e.Upright x box := by
  have hlt := box.top_lt
  have htop := h.top_eq
  have hbottom := h.bottom_eq
  have hne : ¬ (p.y == q.y) = true := by
    rw [hp.y.beq_iff hq.y]
    omega
  rw [Edge.between?, if_neg hne]
  split
  next hdown =>
    rw [hp.y.lt_iff hq.y] at hdown
    obtain rfl : c = box.top := by omega
    obtain rfl : d = box.bottom := by omega
    exact ⟨_, rfl, hp, hq, Int.one_ne_zero⟩
  next hup =>
    rw [hp.y.lt_iff hq.y] at hup
    obtain rfl : d = box.top := by omega
    obtain rfl : c = box.bottom := by omega
    exact ⟨_, rfl, hq, hp, Int.neg_ne_zero.2 Int.one_ne_zero⟩

theorem outlined_of_columns (h : box.Spans a b c d) (he : e.Upright a box) (he' : e'.Upright b box) :
    Outlined box [e, e'] := by
  have hlt := box.left_lt
  have hleft := h.left_eq
  have hright := h.right_eq
  rcases Int.lt_or_le a b with hab | hab
  · obtain rfl : a = box.left := by omega
    obtain rfl : b = box.right := by omega
    exact .leftFirst he he'
  · obtain rfl : b = box.left := by omega
    obtain rfl : a = box.right := by omega
    exact .rightFirst he he'

theorem Spans.swap_columns (h : box.Spans a b c d) : box.Spans b a c d :=
  ⟨h.left_eq.trans (min_comm a b), h.right_eq.trans (max_comm a b), h.top_eq, h.bottom_eq⟩

theorem Spans.swap_rows (h : box.Spans a b c d) : box.Spans a b d c :=
  ⟨h.left_eq, h.right_eq, h.top_eq.trans (min_comm c d), h.bottom_eq.trans (max_comm c d)⟩

theorem outlined_level (h : box.Spans a b c d) (hp : p.At a c) (hq : q.At b c) (hq' : q'.At b d)
    (hp' : p'.At a d) : Outlined box (Edge.ofOutline [p, q, q', p']) := by
  obtain ⟨e, he, hupright⟩ := between?_upright h hq hq'
  obtain ⟨e', he', hupright'⟩ := between?_upright h.swap_rows hp' hp
  have hedges : Edge.ofOutline [p, q, q', p'] = [e, e'] := by
    simp [Edge.ofOutline, between?_level hp hq, between?_level hq' hp', he, he']
  rw [hedges]
  exact outlined_of_columns h.swap_columns hupright hupright'

theorem outlined_upright (h : box.Spans a b c d) (hp : p.At a c) (hp' : p'.At a d) (hq' : q'.At b d)
    (hq : q.At b c) : Outlined box (Edge.ofOutline [p, p', q', q]) := by
  obtain ⟨e, he, hupright⟩ := between?_upright h hp hp'
  obtain ⟨e', he', hupright'⟩ := between?_upright h.swap_rows hq' hq
  have hedges : Edge.ofOutline [p, p', q', q] = [e, e'] := by
    simp [Edge.ofOutline, between?_level hp' hq', between?_level hq hp, he, he']
  rw [hedges]
  exact outlined_of_columns h hupright hupright'

end Edges

section Crossings

variable {box : Box} {e e' : Edge} {c c' : Crossing} {x left right : Nat} {y : Nat}

theorem halves_centre {n : Nat} (hn : n < 2 ^ 40) : Halves (n.toFloat + 0.5) (2 * n + 1) :=
  (halves_toFloat (by omega)).add halves_half (by omega)

theorem crossing?_outside (h : e.Upright x box) (hy : y < 2 ^ 40)
    (hout : ¬ (box.top ≤ 2 * y + 1 ∧ 2 * y + 1 < box.bottom)) : e.crossing? (y.toFloat + 0.5) = none := by
  have hcentre := halves_centre hy
  rw [Edge.crossing?, if_pos]
  rw [Bool.or_eq_true, decide_eq_true_iff, decide_eq_true_iff, hcentre.lt_iff h.upper.y, ge_iff_le,
    h.lower.y.le_iff hcentre]
  omega

theorem crossing?_inside (h : e.Upright x box) (hx : x < 2 ^ 40) (hy : y < 2 ^ 40)
    (hin : box.top ≤ 2 * y + 1 ∧ 2 * y + 1 < box.bottom) :
    ∃ c, e.crossing? (y.toFloat + 0.5) = some c ∧ c.At x := by
  have hcentre := halves_centre hy
  have hbottom := box.bottom_lt
  have hheight : Halves (e.lower.y - e.upper.y) (box.bottom - box.top) := h.lower.y.sub h.upper.y (by omega)
  have hdepth : Halves (y.toFloat + 0.5 - e.upper.y) (2 * y + 1 - box.top) := hcentre.sub h.upper.y (by omega)
  have hfinite := hdepth.isFinite_div hheight (by omega) (by omega)
  have hstraight : Halves (e.lower.x - e.upper.x) 0 := by
    have hsub := h.lower.x.sub h.upper.x (by omega)
    rwa [sub_self] at hsub
  have hplace := h.upper.x.add (hstraight.mul_of_zero hfinite) (by omega)
  rw [add_zero] at hplace
  rw [Edge.crossing?, if_neg]
  · exact ⟨_, rfl, hplace, h.winding⟩
  · rw [Bool.or_eq_true, decide_eq_true_iff, decide_eq_true_iff, hcentre.lt_iff h.upper.y, ge_iff_le,
      h.lower.y.le_iff hcentre]
    omega

theorem mergeSort_pair {α : Type} {le : α → α → Bool} (a b : α) :
    [a, b].mergeSort le = if le a b then [a, b] else [b, a] := by
  simp [List.mergeSort, List.MergeSort.Internal.splitInTwo, List.merge]

theorem le_of_columns (hc : c.At left) (hc' : c'.At right) (hlt : left < right) :
    Crossing.le c c' = true ∧ Crossing.le c' c = false := by
  obtain ⟨hle, hnot⟩ := totalLE_of_lt hc.x hc'.x (by omega)
  simp only [Crossing.le, hc.x.not_isNaN, hc'.x.not_isNaN, Bool.false_and, Bool.false_eq_true, if_false]
  exact ⟨hle, hnot⟩

theorem crossings_inside {edges : List Edge} (h : Outlined box edges) (hy : y < 2 ^ 40)
    (hin : box.top ≤ 2 * y + 1 ∧ 2 * y + 1 < box.bottom) :
    ∃ c c', (edges.filterMap (Edge.crossing? (y.toFloat + 0.5))).mergeSort Crossing.le = [c, c'] ∧
      c.At box.left ∧ c'.At box.right := by
  have hlt := box.left_lt
  have hright := box.right_lt
  cases h with
  | leftFirst h h' =>
    obtain ⟨c, hcross, hc⟩ := crossing?_inside h (by omega) hy hin
    obtain ⟨c', hcross', hc'⟩ := crossing?_inside h' (by omega) hy hin
    refine ⟨c, c', ?_, hc, hc'⟩
    rw [List.filterMap_cons_some hcross, List.filterMap_cons_some hcross', List.filterMap_nil, mergeSort_pair,
      (le_of_columns hc hc' hlt).1, if_pos rfl]
  | rightFirst h h' =>
    obtain ⟨c', hcross', hc'⟩ := crossing?_inside h (by omega) hy hin
    obtain ⟨c, hcross, hc⟩ := crossing?_inside h' (by omega) hy hin
    refine ⟨c, c', ?_, hc, hc'⟩
    rw [List.filterMap_cons_some hcross', List.filterMap_cons_some hcross, List.filterMap_nil, mergeSort_pair,
      (le_of_columns hc hc' hlt).2, if_neg Bool.false_ne_true]

theorem crossings_outside {edges : List Edge} (h : Outlined box edges) (hy : y < 2 ^ 40)
    (hout : ¬ (box.top ≤ 2 * y + 1 ∧ 2 * y + 1 < box.bottom)) :
    edges.filterMap (Edge.crossing? (y.toFloat + 0.5)) = [] := by
  cases h with
  | leftFirst h h' | rightFirst h h' =>
    rw [List.filterMap_cons_none (crossing?_outside h hy hout),
      List.filterMap_cons_none (crossing?_outside h' hy hout), List.filterMap_nil]

theorem halves_column (h : c.At x) (hx : x < 2 ^ 40) : Halves c.column (2 * (x / 2 : Nat)) := by
  have hceil := halves_ceil (h.x.sub halves_half (by omega)) (by omega) (by omega)
  rwa [show 2 * (((x : Int) - 1 + 1) / 2) = 2 * (x / 2 : Nat) by omega] at hceil

theorem runs_eq {width : Nat} (hc : c.At left) (hc' : c'.At right) (hleft : left < 2 ^ 40)
    (hright : right < 2 ^ 40) (hwidth : width < 2 ^ 40) : Crossing.runs width 0 [c, c'] = [(left / 2, min (right / 2) width)] := by
  have hstart := halves_greatest (halves_column hc hleft) halves_zero
  have hstop := halves_least (halves_column hc' hright) (halves_toFloat (n := width) (by omega))
  rw [show max (2 * ((left / 2 : Nat) : Int)) 0 = 2 * (left / 2 : Nat) by omega] at hstart
  rw [show min (2 * ((right / 2 : Nat) : Int)) (2 * width) = 2 * (min (right / 2) width : Nat) by omega] at hstop
  have hne : ¬ 0 + c.winding = 0 := by
    rw [Int.zero_add]
    exact hc.winding
  simp only [Crossing.runs, if_neg hne, hstart.toNat64_eq (show left / 2 < 2 ^ 52 by omega),
    hstop.toNat64_eq (show min (right / 2) width < 2 ^ 52 by omega)]

end Crossings

section Fill

variable {box : Box} {edges : List Edge} {b : Bitmap} {y : Nat}

def change (box : Box) (f : Color → Color) (x y : Nat) : Color → Color :=
  if box.Contains x y then f else id

theorem fillRow_changed (h : Outlined box edges) (f : Color → Color) (hwidth : b.width < 2 ^ 40)
    (hy : y < 2 ^ 40) : Bitmap.Changed (fun x y' => if y' = y then box.change f x y' else id) b (b.fillRow f edges y) := by
  have hright := box.right_lt
  have hleft := box.left_lt
  by_cases hin : box.top ≤ 2 * y + 1 ∧ 2 * y + 1 < box.bottom
  · obtain ⟨c, c', hsort, hc, hc'⟩ := crossings_inside h hy hin
    rw [Bitmap.fillRow, hsort, runs_eq hc hc' (by omega) hright hwidth]
    have hrun := Bitmap.modifyRun_changed (fun _ => f) y (box.left / 2) (min (box.right / 2) b.width) b
    refine hrun.congr_inside fun x y' hx _ => ?_
    by_cases hy' : y' = y
    · subst hy'
      have hsame : box.Contains x y' ↔ box.left / 2 ≤ x ∧ x < min (box.right / 2) b.width ∧ y' = y' := by
        rw [Contains]
        omega
      simp only [change, hsame, if_true]
    · rw [if_neg (fun h => hy' h.2.2), if_neg hy']
  · have hrow : b.fillRow f edges y = b := by
      rw [Bitmap.fillRow, crossings_outside h hy hin, List.mergeSort_nil]
      rfl
    rw [hrow]
    refine (Bitmap.Changed.refl b).congr fun x y' => ?_
    by_cases hy' : y' = y
    · subst hy'
      rw [if_pos rfl, change, if_neg (fun h => hin h.2)]
    · rw [if_neg hy']

theorem Outlined.exists_upright (h : Outlined box edges) :
    ∃ (e e' : Edge) (x x' : Int), edges = [e, e'] ∧ e.Upright x box ∧ e'.Upright x' box := by
  cases h with
  | leftFirst h h' | rightFirst h h' => exact ⟨_, _, _, _, rfl, h, h'⟩

theorem fillOutlines_eq {outlines : List (List Point)} (h : Outlined box (outlines.flatMap Edge.ofOutline))
    (f : Color → Color) (hheight : b.height < 2 ^ 40) :
    b.fillOutlines f outlines = b.forRows (Bitmap.fillRow f (outlines.flatMap Edge.ofOutline)) (box.top / 2)
      (min ((box.bottom + 1) / 2) b.height) := by
  have hlt := box.top_lt
  have hbottom := box.bottom_lt
  obtain ⟨e, e', x, x', hedges, he, he'⟩ := h.exists_upright
  have hhigh {e : Edge} {x : Int} (he : e.Upright x box) : Halves (least e.upper.y e.lower.y) box.top := by
    have hmin := halves_least he.upper.y he.lower.y
    rwa [min_eq_left (by omega)] at hmin
  have hlow {e : Edge} {x : Int} (he : e.Upright x box) : Halves (greatest e.upper.y e.lower.y) box.bottom := by
    have hmax := halves_greatest he.upper.y he.lower.y
    rwa [max_eq_right (by omega)] at hmax
  have htop := halves_least (hhigh he) (hhigh he')
  have hend := halves_greatest (hlow he) (hlow he')
  rw [min_self] at htop
  rw [max_self] at hend
  have hstart := halves_greatest (halves_floor htop (by omega) (by omega)) halves_zero
  have hstop := halves_least (halves_ceil hend (by omega) (by omega))
    (halves_toFloat (n := b.height) (by omega))
  rw [show max (2 * ((box.top : Int) / 2)) 0 = 2 * (box.top / 2 : Nat) by omega] at hstart
  rw [show min (2 * (((box.bottom : Int) + 1) / 2)) (2 * b.height) =
    2 * (min ((box.bottom + 1) / 2) b.height : Nat) by omega] at hstop
  simp only [Bitmap.fillOutlines, hedges, List.map_cons, List.map_nil, List.foldl_cons, List.foldl_nil,
    least_infinity (hhigh he).isFinite, greatest_infinity (hlow he).isFinite,
    hstart.toNat64_eq (show box.top / 2 < 2 ^ 52 by omega),
    hstop.toNat64_eq (show min ((box.bottom + 1) / 2) b.height < 2 ^ 52 by omega)]

/-- The pixels are painted whose centres lie in the box. -/
theorem fill_changed {outlines : List (List Point)} (h : Outlined box (outlines.flatMap Edge.ofOutline))
    (f : Color → Color) (hwidth : b.width < 2 ^ 40) (hheight : b.height < 2 ^ 40) :
    Bitmap.Changed (box.change f) b (b.fillOutlines f outlines) := by
  rw [fillOutlines_eq h f hheight]
  have hrows := Bitmap.forRows_changed (b := b) (box.change f)
    (f := Bitmap.fillRow f (outlines.flatMap Edge.ofOutline)) (box.top / 2) (min ((box.bottom + 1) / 2) b.height)
    fun y hy b' hwidth' _ => fillRow_changed h f (hwidth'.trans_lt hwidth) (by omega)
  refine hrows.congr_inside fun x y _ hy => ?_
  by_cases hin : box.Contains x y
  · rw [if_pos]
    rw [Contains] at hin
    omega
  · simp only [change, if_neg hin, ite_self]

end Fill

end Box

end BandCanvas
