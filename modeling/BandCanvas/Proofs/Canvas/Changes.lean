import BandCanvas.Canvas.Segment

namespace BandCanvas.Bitmap

variable {b b' b'' : Bitmap} {f : Color → Color}

theorem get?_of_le (x y : Nat) (h : b.width ≤ x ∨ b.height ≤ y) : b.get? x y = none := by
  rw [get?, if_neg (by omega)]

theorem exists_get? {x y : Nat} (hx : x < b.width) (hy : y < b.height) : ∃ c, b.get? x y = some c := by
  have hsize : y * b.width + x < b.pixels.size := by
    rw [b.size_pixels]
    calc y * b.width + x < y * b.width + b.width := Nat.add_lt_add_left hx _
      _ = (y + 1) * b.width := (Nat.succ_mul ..).symm
      _ ≤ b.height * b.width := Nat.mul_le_mul_right _ hy
      _ = b.width * b.height := Nat.mul_comm ..
  rw [get?, if_pos ⟨hx, hy⟩]
  exact ⟨_, Array.getElem?_eq_getElem hsize⟩

theorem index_inj {w x y x' y' : Nat} (hx : x < w) (hx' : x' < w) (h : y * w + x = y' * w + x') :
    x = x' ∧ y = y' := by
  have hy : y = y' := by
    have hdiv : (y * w + x) / w = y := by
      rw [Nat.mul_comm, Nat.mul_add_div (by omega), Nat.div_eq_of_lt hx, Nat.add_zero]
    have hdiv' : (y' * w + x') / w = y' := by
      rw [Nat.mul_comm, Nat.mul_add_div (by omega), Nat.div_eq_of_lt hx', Nat.add_zero]
    rw [← hdiv, h, hdiv']
  subst hy
  exact ⟨by omega, rfl⟩

theorem get?_modify (f : Color → Color) (x y : Nat) (b : Bitmap) (x' y' : Nat) :
    (b.modify f x y).get? x' y' = (b.get? x' y').map (if x' = x ∧ y' = y then f else id) := by
  by_cases hin : x < b.width ∧ y < b.height
  · simp only [modify, if_pos hin, get?]
    by_cases hin' : x' < b.width ∧ y' < b.height
    · rw [if_pos hin', if_pos hin', Array.getElem?_modify]
      by_cases hsame : x' = x ∧ y' = y
      · rw [if_pos hsame, hsame.1, hsame.2, if_pos rfl]
      · rw [if_neg hsame, Option.map_id, id, if_neg]
        intro hindex
        obtain ⟨hx, hy⟩ := index_inj hin.1 hin'.1 hindex
        exact hsame ⟨hx.symm, hy.symm⟩
    · rw [if_neg hin', if_neg hin', Option.map_none]
  · rw [modify, if_neg hin]
    split
    next hsame =>
      rw [get?_of_le x' y' (by omega), Option.map_none]
    next => rw [Option.map_id, id]

theorem modify_width (f : Color → Color) (x y : Nat) (b : Bitmap) : (b.modify f x y).width = b.width := by
  rw [modify]
  split <;> rfl

theorem modify_height (f : Color → Color) (x y : Nat) (b : Bitmap) :
    (b.modify f x y).height = b.height := by
  rw [modify]
  split <;> rfl

/-- Each pixel of `b'` is what the pixel of `b` at its place was changed to. -/
structure Changed (change : Nat → Nat → Color → Color) (b b' : Bitmap) : Prop where
  width_eq : b'.width = b.width
  height_eq : b'.height = b.height
  get?_eq (x y : Nat) : b'.get? x y = (b.get? x y).map (change x y)

namespace Changed

variable {change change' : Nat → Nat → Color → Color}

theorem refl (b : Bitmap) : Changed (fun _ _ => id) b b :=
  ⟨rfl, rfl, fun _ _ => (congrFun Option.map_id _).symm⟩

theorem trans (h : Changed change b b') (h' : Changed change' b' b'') :
    Changed (fun x y => change' x y ∘ change x y) b b'' := by
  refine ⟨h'.width_eq.trans h.width_eq, h'.height_eq.trans h.height_eq, fun x y => ?_⟩
  rw [h'.get?_eq, h.get?_eq, Option.map_map]

theorem congr (h : Changed change b b') (heq : ∀ x y, change x y = change' x y) : Changed change' b b' := by
  obtain rfl : change = change' := funext fun x => funext fun y => heq x y
  exact h

theorem congr_inside (h : Changed change b b')
    (heq : ∀ x y, x < b.width → y < b.height → change x y = change' x y) : Changed change' b b' := by
  refine ⟨h.width_eq, h.height_eq, fun x y => (h.get?_eq x y).trans ?_⟩
  by_cases hin : x < b.width ∧ y < b.height
  · rw [heq x y hin.1 hin.2]
  · rw [get?_of_le x y (by omega), Option.map_none, Option.map_none]

end Changed

theorem modify_changed (f : Color → Color) (x y : Nat) (b : Bitmap) :
    Changed (fun x' y' => if x' = x ∧ y' = y then f else id) b (b.modify f x y) :=
  ⟨modify_width f x y b, modify_height f x y b, get?_modify f x y b⟩

theorem modifyPixel_changed (f : Color → Color) (p : Pixel) (b : Bitmap) :
    Changed (fun x y => if p = ⟨x, y⟩ then f else id) b (b.modifyPixel f p) := by
  obtain ⟨px, py⟩ := p
  cases px with
  | ofNat x =>
    cases py with
    | ofNat y =>
      refine (modify_changed f x y b).congr fun x' y' => ?_
      have hsame : (⟨.ofNat x, .ofNat y⟩ : Pixel) = ⟨x', y'⟩ ↔ x' = x ∧ y' = y := by
        simp only [Pixel.mk.injEq, Int.ofNat_eq_natCast]
        omega
      simp only [hsame]
    | negSucc y =>
      refine (Changed.refl b).congr fun x' y' => (if_neg ?_).symm
      simp only [Pixel.mk.injEq, reduceCtorEq, and_false, not_false_eq_true]
  | negSucc x =>
    refine (Changed.refl b).congr fun x' y' => (if_neg ?_).symm
    simp only [Pixel.mk.injEq, reduceCtorEq, false_and, not_false_eq_true]

section Folds

variable {n : Nat}

/-- Steps that each change the pixels of one key: every pixel is changed once, at its key. -/
theorem foldl_range'_changed {step : Bitmap → Nat → Bitmap} {b : Bitmap} (key : Nat → Nat → Nat)
    (change : Nat → Nat → Color → Color) (start : Nat)
    (hstep : ∀ i < start + n, ∀ b', b'.width = b.width → b'.height = b.height →
      Changed (fun x y => if key x y = i then change x y else id) b' (step b' i)) :
    Changed (fun x y => if start ≤ key x y ∧ key x y < start + n then change x y else id) b
      ((List.range' start n).foldl step b) := by
  induction n generalizing start b with
  | zero =>
    refine (Changed.refl b).congr fun x y => (if_neg ?_).symm
    omega
  | succ n ih =>
    have hfirst := hstep start (by omega) b rfl rfl
    have hrest := ih (b := step b start) (start + 1) fun i hi b' hwidth hheight =>
      hstep i (by omega) b' (hwidth.trans hfirst.width_eq) (hheight.trans hfirst.height_eq)
    refine (hfirst.trans hrest).congr fun x y => ?_
    rcases Nat.lt_trichotomy (key x y) start with hlt | heq | hgt
    · rw [if_neg (by omega), if_neg (by omega), if_neg (by omega)]
      rfl
    · rw [if_neg (by omega), if_pos heq, if_pos (by omega)]
      rfl
    · by_cases hin : key x y < start + (n + 1)
      · rw [if_pos (by omega), if_neg (by omega), if_pos (by omega)]
        rfl
      · rw [if_neg (by omega), if_neg (by omega), if_neg (by omega)]
        rfl

theorem modifyRun_changed (f : Nat → Color → Color) (y x stop : Nat) (b : Bitmap) :
    Changed (fun x' y' => if x ≤ x' ∧ x' < stop ∧ y' = y then f x' else id) b (b.modifyRun f y x stop) := by
  have hrun := foldl_range'_changed (n := stop - x) (b := b) (fun x _ => x)
    (fun x' y' => if y' = y then f x' else id) x
    fun x' _ b' _ _ => (modify_changed (f x') x' y b').congr fun x'' y'' => by
      by_cases hx : x'' = x'
      · subst hx
        simp only [true_and, if_true]
      · rw [if_neg hx, if_neg (fun h => hx h.1)]
  refine hrun.congr fun x' y' => ?_
  by_cases hx : x ≤ x' ∧ x' < stop
  · rw [if_pos (by omega)]
    simp only [hx, true_and]
  · rw [if_neg (by omega), if_neg (by omega)]

theorem forRows_changed {f : Nat → Bitmap → Bitmap} {b : Bitmap} (change : Nat → Nat → Color → Color)
    (y stop : Nat) (hf : ∀ i < stop, ∀ b', b'.width = b.width → b'.height = b.height →
      Changed (fun x y' => if y' = i then change x y' else id) b' (f i b')) :
    Changed (fun x y' => if y ≤ y' ∧ y' < stop then change x y' else id) b (b.forRows f y stop) := by
  rcases Nat.lt_or_ge stop y with hlt | hge
  · have hnone : stop - y = 0 := by omega
    rw [forRows, hnone]
    refine (Changed.refl b).congr fun x y' => (if_neg ?_).symm
    omega
  have hrows := foldl_range'_changed (n := stop - y) (fun _ y => y) change y fun i hi => hf i (by omega)
  refine hrows.congr fun x y' => ?_
  by_cases hy : y ≤ y' ∧ y' < stop
  · rw [if_pos hy, if_pos (by omega)]
  · rw [if_neg hy, if_neg (by omega)]

theorem foldl_modifyPixel_changed (hf : f ∘ f = f) (ps : List Pixel) (b : Bitmap) :
    Changed (fun x y => if ⟨x, y⟩ ∈ ps then f else id) b (ps.foldl (fun b p => b.modifyPixel f p) b) := by
  induction ps generalizing b with
  | nil =>
    refine (Changed.refl b).congr fun x y => (if_neg ?_).symm
    simp
  | cons p ps ih =>
    refine ((modifyPixel_changed f p b).trans (ih _)).congr fun x y => ?_
    by_cases hp : p = ⟨x, y⟩
    · by_cases hps : ⟨x, y⟩ ∈ ps
      · rw [if_pos hps, if_pos hp, if_pos (List.mem_cons_of_mem _ hps), hf]
      · rw [if_neg hps, if_pos hp, if_pos (hp ▸ List.mem_cons_self)]
        rfl
    · have hmem : (⟨x, y⟩ : Pixel) ∈ p :: ps ↔ ⟨x, y⟩ ∈ ps := by
        rw [List.mem_cons, or_iff_right (Ne.symm hp)]
      simp only [if_neg hp, hmem]
      rfl

end Folds

theorem ext_get? (hwidth : b'.width = b.width) (hheight : b'.height = b.height)
    (h : ∀ x y, b'.get? x y = b.get? x y) : b' = b := by
  obtain ⟨w, k, ps, hsize⟩ := b
  obtain ⟨w', k', ps', hsize'⟩ := b'
  obtain rfl : w' = w := hwidth
  obtain rfl : k' = k := hheight
  suffices hps : ps' = ps by
    subst hps
    rfl
  apply Array.ext_getElem?
  intro i
  by_cases hi : i < w' * k'
  · have hw : 0 < w' := Nat.pos_of_ne_zero (by rintro rfl; simp at hi)
    have hx : i % w' < w' := Nat.mod_lt i hw
    have hy : i / w' < k' := (Nat.div_lt_iff_lt_mul hw).2 (by rwa [Nat.mul_comm] at hi)
    have hplace : i / w' * w' + i % w' = i := by rw [Nat.mul_comm, Nat.div_add_mod]
    have hsame := h (i % w') (i / w')
    simp only [get?, if_pos (And.intro hx hy), hplace] at hsame
    exact hsame
  · rw [Array.getElem?_eq_none (by omega), Array.getElem?_eq_none (by omega)]

end BandCanvas.Bitmap
