import BandCanvas.Proofs.Canvas.Disc
import BandCanvas.Proofs.Canvas.Line
import BandCanvas.Proofs.Canvas.Painting
import BandCanvas.Proofs.Number.Halves

namespace BandCanvas

namespace Pixel

variable {stop p q : Pixel} {dx dy sx sy err : Int} {pixels fuel : Nat} {ps : List Pixel}

theorem eq_of_advance32? {goes : Prop} [Decidable goes] {err change place direction : Int} {result : Int × Int}
    (h : advance32? goes err change place direction = some result) :
    result = (err + (if goes then change else 0), if goes then place + direction else place) := by
  rw [advance32?] at h
  split at h
  next hgoes =>
    obtain ⟨err', herr, h⟩ := Option.bind_eq_some_iff.1 h
    obtain ⟨place', hplace, h⟩ := Option.bind_eq_some_iff.1 h
    rw [if_pos hgoes, if_pos hgoes, ← SignedWord.eq_of_fit? herr, ← SignedWord.eq_of_fit? hplace]
    exact (Option.some.inj h).symm
  next hgoes =>
    rw [if_neg hgoes, if_neg hgoes, Int.add_zero]
    exact (Option.some.inj h).symm

/-- A walk with words that comes to its end has gone as the walk with integers does. -/
theorem walk_of_walk32? (hfuel : pixels ≤ fuel + 1) (h : walk32? stop dx dy sx sy pixels err p = some ps) :
    walk stop dx dy sx sy fuel err p = ps := by
  induction pixels generalizing fuel err p ps with
  | zero => cases h
  | succ pixels ih =>
    rw [walk32?] at h
    split at h
    next hstop =>
      obtain rfl := Option.some.inj h
      cases fuel with
      | zero => rfl
      | succ fuel => rw [walk, if_pos hstop]
    next hstop =>
      obtain ⟨twice, htwice, h⟩ := Option.bind_eq_some_iff.1 h
      obtain ⟨⟨err₁, x⟩, hacross, h⟩ := Option.bind_eq_some_iff.1 h
      obtain ⟨⟨err₂, y⟩, hdown, h⟩ := Option.bind_eq_some_iff.1 h
      obtain ⟨rest, hrest, h⟩ := Option.bind_eq_some_iff.1 h
      obtain rfl := Option.some.inj h
      obtain rfl := SignedWord.eq_of_fit? htwice
      obtain ⟨rfl, rfl⟩ := Prod.mk.inj (eq_of_advance32? hacross)
      obtain ⟨rfl, rfl⟩ := Prod.mk.inj (eq_of_advance32? hdown)
      cases fuel with
      | zero =>
        obtain rfl : pixels = 0 := by omega
        cases hrest
      | succ fuel =>
        rw [walk, if_neg hstop]
        exact congrArg (p :: ·) (ih (by omega) hrest)

def wordLine? (p q : Pixel) : Option (List Pixel) :=
  line32? ((q.x - p.x).natAbs + (q.y - p.y).natAbs + 1) p q

theorem line_of_wordLine? (h : wordLine? p q = some ps) : line p q = ps := by
  rw [wordLine?, line32?] at h
  obtain ⟨width, hwidth, h⟩ := Option.bind_eq_some_iff.1 h
  obtain ⟨dx, hdx, h⟩ := Option.bind_eq_some_iff.1 h
  obtain ⟨height, hheight, h⟩ := Option.bind_eq_some_iff.1 h
  obtain ⟨dy, hdy, h⟩ := Option.bind_eq_some_iff.1 h
  obtain ⟨down, hdown, h⟩ := Option.bind_eq_some_iff.1 h
  obtain ⟨err, herr, h⟩ := Option.bind_eq_some_iff.1 h
  obtain rfl := SignedWord.eq_of_fit? hwidth
  obtain rfl := SignedWord.eq_of_fit? hdx
  obtain rfl := SignedWord.eq_of_fit? hheight
  obtain rfl := SignedWord.eq_of_fit? hdy
  obtain rfl := SignedWord.eq_of_fit? hdown
  obtain rfl := SignedWord.eq_of_fit? herr
  exact walk_of_walk32? (Nat.le_refl _) h

theorem wordLine?_eq (hp : p.Within (2 ^ 28)) (hq : q.Within (2 ^ 28)) : wordLine? p q = some (line p q) := by
  apply line32?_eq hp hq
  rw [distance, distanceX, distanceY]
  omega

end Pixel

namespace Segment

variable {s : Segment} {brush : Brush} {color : Color} {b b' : Bitmap}

/-- Paints a segment, with words of 32 bits for the steps along a thin one. -/
def paint32? (s : Segment) (brush : Brush) (color : Color) (b : Bitmap) : Option Bitmap :=
  match s.clipped? brush b.width b.height with
  | some s =>
    if brush.radius = 0 then
      (Pixel.wordLine? (Pixel.ofPoint s.start) (Pixel.ofPoint s.stop)).map
        (·.foldl (fun b p => b.modifyPixel color.blendOver p) b)
    else some (s.paintClipped brush color b)
  | none => some b

theorem paint_of_paint32? (h : s.paint32? brush color b = some b') : b' = s.paint brush color b := by
  rw [paint32?] at h
  rw [paint]
  cases hclipped : s.clipped? brush b.width b.height with
  | some s' =>
    rw [hclipped] at h
    dsimp only at h ⊢
    by_cases hthin : brush.radius = 0
    · rw [if_pos hthin] at h
      obtain ⟨ps, hline, rfl⟩ := Option.map_eq_some_iff.1 h
      simp only [paintClipped, if_pos hthin, Pixel.line_of_wordLine? hline]
    · rw [if_neg hthin] at h
      exact (Option.some.inj h).symm
  | none =>
    rw [hclipped] at h
    exact (Option.some.inj h).symm

/-- Whether a segment is stepped as a thin line with an end far from the origin. -/
def StepsFar (s : Segment) (brush : Brush) (width height : Nat) : Prop :=
  brush.radius = 0 ∧ ∃ s', s.clipped? brush width height = some s' ∧
    ¬ ((Pixel.ofPoint s'.start).Within (2 ^ 28) ∧ (Pixel.ofPoint s'.stop).Within (2 ^ 28))

theorem paint32?_eq (h : ¬ s.StepsFar brush b.width b.height) :
    s.paint32? brush color b = some (s.paint brush color b) := by
  rw [paint32?, paint]
  cases hclipped : s.clipped? brush b.width b.height with
  | some s' =>
    dsimp only
    split
    next hthin =>
      have hnear : (Pixel.ofPoint s'.start).Within (2 ^ 28) ∧ (Pixel.ofPoint s'.stop).Within (2 ^ 28) := by
        by_contra hfar
        exact h ⟨hthin, s', hclipped, hfar⟩
      rw [Pixel.wordLine?_eq hnear.1 hnear.2, Option.map_some]
      simp only [paintClipped, if_pos hthin]
    next => rfl
  | none => rfl

end Segment

namespace Raster

variable {r r' : Raster} {call : CanvasCall} {style : Style} {closed : Bool} {points : List Point} {b b' : Bitmap}
  {lines : List (Bool × List Point)} {picture : Bitmap} {source target : DeviceRect}

section Strokes

def strokeLine32? (style : Style) (closed : Bool) (points : List Point) (b : Bitmap) : Option Bitmap :=
  match points with
  | [_] => some (strokeLine style closed points b)
  | _ => (Segment.ofPoints closed points).foldlM (fun b' s => s.paint32? ⟨strokeWidth style b⟩ style.stroke b') b

theorem strokeLine_of_strokeLine32? (h : strokeLine32? style closed points b = some b') :
    b' = strokeLine style closed points b := by
  unfold strokeLine32? at h
  split at h
  next => exact (Option.some.inj h).symm
  next hmany =>
    rw [strokeLine.eq_2 _ _ _ _ hmany]
    exact SignedWord.foldl_of_foldlM (fun _ _ _ => Segment.paint_of_paint32?) h

def LineStepsFar (style : Style) (width height : Nat) (closed : Bool) (points : List Point) : Prop :=
  ∃ s ∈ Segment.ofPoints closed points, s.StepsFar ⟨strokeWidth style (Bitmap.blank width height)⟩ width height

theorem strokeLine32?_eq (h : ¬ LineStepsFar style b.width b.height closed points) :
    strokeLine32? style closed points b = some (strokeLine style closed points b) := by
  unfold strokeLine32?
  split
  next => rfl
  next hmany =>
    rw [strokeLine.eq_2 _ _ _ _ hmany]
    refine (SignedWord.foldlM_eq_some (P := fun b' => b'.width = b.width ∧ b'.height = b.height) ?_ ⟨rfl, rfl⟩).1
    rintro s hs b' ⟨hwidth, hheight⟩
    have hpainted : Bitmap.Painted Color.clear b' (s.paint ⟨strokeWidth style b⟩ style.stroke b') :=
      s.paint_painted _ _ b'
    constructor
    · apply Segment.paint32?_eq
      rw [hwidth, hheight]
      exact fun hfar => h ⟨s, hs, hfar⟩
    · exact ⟨hpainted.width_eq.trans hwidth, hpainted.height_eq.trans hheight⟩

def stroke32? (lines : List (Bool × List Point)) (r : Raster) : Option Raster :=
  (lines.foldlM (fun b (closed, points) => strokeLine32? r.pen.style closed points b) r.pixels).map fun pixels =>
    { r with pixels }

theorem stroke_of_stroke32? (h : r.stroke32? lines = some r') : r' = r.stroke lines := by
  obtain ⟨pixels, hpixels, rfl⟩ := Option.map_eq_some_iff.1 h
  rw [stroke, SignedWord.foldl_of_foldlM (fun _ _ _ => strokeLine_of_strokeLine32?) hpixels]

theorem stroke32?_eq
    (h : ∀ l ∈ lines, ¬ LineStepsFar r.pen.style r.pixels.width r.pixels.height l.1 l.2) :
    r.stroke32? lines = some (r.stroke lines) := by
  refine Option.map_eq_some_iff.2 ⟨_, (SignedWord.foldlM_eq_some
    (P := fun b => b.width = r.pixels.width ∧ b.height = r.pixels.height) ?_ ⟨rfl, rfl⟩).1, rfl⟩
  rintro ⟨closed, points⟩ hline b ⟨hwidth, hheight⟩
  have hpainted : Bitmap.Painted Color.clear b (strokeLine r.pen.style closed points b) :=
    strokeLine_painted _ closed points b
  constructor
  · apply strokeLine32?_eq
    rw [hwidth, hheight]
    exact h _ hline
  · exact ⟨hpainted.width_eq.trans hwidth, hpainted.height_eq.trans hheight⟩

end Strokes

section Pictures

/-- Only a picture without pixels has none to show at a place that is not beside it. -/
theorem isEmpty_of_sample? {x y : Float} (h : sample? picture source target x y = some none) :
    picture.isEmpty = true := by
  rw [sample?] at h
  dsimp only at h
  split at h
  · split at h
    · cases h
    next hinside =>
      by_contra hpixels
      simp only [Bitmap.isEmpty, Bool.or_eq_true, decide_eq_true_eq, not_or] at hpixels
      simp only [ge_iff_le, Bool.or_eq_true, decide_eq_true_eq, not_or] at hinside
      obtain ⟨⟨-, hright⟩, hbottom⟩ := hinside
      obtain ⟨c, hc⟩ := Bitmap.exists_get? (Binary64.toNat32_lt (Nat.pos_of_ne_zero hpixels.1) hright)
        (Binary64.toNat32_lt (Nat.pos_of_ne_zero hpixels.2) hbottom)
      rw [hc] at h
      cases h
  · cases h

theorem isEmpty_of_drawImage? (h : r.drawImage? picture source target = none) : picture.isEmpty = true := by
  rw [drawImage?] at h
  split at h
  · cases h
  split at h
  · cases h
  dsimp only at h
  split at h
  next hnone =>
    obtain ⟨y, -, hrow⟩ := List.any_eq_true.1 hnone
    obtain ⟨x, -, hplace⟩ := List.any_eq_true.1 hrow
    exact isEmpty_of_sample? (of_decide_eq_true hplace)
  · cases h

end Pictures

section Calls

def strokes? (r : Raster) : CanvasCall → Option (List (Bool × List Point))
  | .strokeRect box => some [(true, r.outline box)]
  | .stroke => some (r.path.subpaths.reverse.map fun s => (s.closed, s.points.reverse))
  | _ => none

/-- What a call does with words of 32 bits for the steps along thin lines, unless it fails. -/
def applied32? (r : Raster) (call : CanvasCall) : Option Raster :=
  match r.strokes? call with
  | some lines => r.stroke32? lines
  | none => r.applied? call

/-- Why a call fails: a picture has no pixel to show, or a line is stepped too far out for words of 32 bits. -/
inductive Fails (r : Raster) : CanvasCall → Prop
  | picture {picture : Bitmap} {source target : DeviceRect} (h : picture.isEmpty = true) :
    Fails r (.drawImage picture source target)
  | line {call : CanvasCall} {lines : List (Bool × List Point)} {closed : Bool} {points : List Point}
    (hlines : r.strokes? call = some lines) (hline : (closed, points) ∈ lines)
    (hfar : LineStepsFar r.pen.style r.pixels.width r.pixels.height closed points) : Fails r call

theorem apply_of_strokes? (h : r.strokes? call = some lines) : r.apply call = r.stroke lines := by
  cases call with
  | strokeRect | stroke =>
    obtain rfl := Option.some.inj h
    rfl
  | _ => cases h

theorem apply_of_applied? (h : r.applied? call = some r') : r' = r.apply call := by
  cases call with
  | drawImage picture source target =>
    have hdrawn : r.drawImage? picture source target = some r' := h
    rw [apply, hdrawn, Option.getD_some]
  | _ => exact (Option.some.inj h).symm

/-- A call that does not fail does what it does with words of any size. -/
theorem apply_of_applied32? (h : r.applied32? call = some r') : r' = r.apply call := by
  rw [applied32?] at h
  split at h
  next lines hlines =>
    rw [apply_of_strokes? hlines]
    exact stroke_of_stroke32? h
  next => exact apply_of_applied? h

theorem fails_of_applied32? (h : r.applied32? call = none) : r.Fails call := by
  rw [applied32?] at h
  split at h
  next lines hlines =>
    by_contra hfails
    have hnear : ∀ l ∈ lines, ¬ LineStepsFar r.pen.style r.pixels.width r.pixels.height l.1 l.2 :=
      fun l hl hfar => hfails (.line hlines hl hfar)
    rw [stroke32?_eq hnear] at h
    cases h
  next =>
    cases call with
    | drawImage => exact .picture (isEmpty_of_drawImage? h)
    | _ => cases h

end Calls

end Raster

end BandCanvas
