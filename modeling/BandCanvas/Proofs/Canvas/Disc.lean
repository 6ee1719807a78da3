import Mathlib
import BandCanvas.Proofs.Canvas.Brush
import BandCanvas.Proofs.Number.SignedWord

namespace BandCanvas

namespace Bitmap

variable {b b' b'' : Bitmap} {change : Nat → Nat → Color → Color} {f : Color → Color}

theorem Changed.unique (h : Changed change b b') (h' : Changed change b b'') : b' = b'' :=
  ext_get? (h.width_eq.trans h'.width_eq.symm) (h.height_eq.trans h'.height_eq.symm) fun x y =>
    (h.get?_eq x y).trans (h'.get?_eq x y).symm

theorem foldl_modifyPixel_changed_of_nodup (f : Color → Color) {ps : List Pixel} (hps : ps.Nodup) (b : Bitmap) :
    Changed (fun x y => if ⟨x, y⟩ ∈ ps then f else id) b (ps.foldl (fun b p => b.modifyPixel f p) b) := by
  induction ps generalizing b with
  | nil =>
    refine (Changed.refl b).congr fun x y => (if_neg ?_).symm
    exact List.not_mem_nil
  | cons p ps ih =>
    obtain ⟨hp, hps⟩ := List.nodup_cons.1 hps
    refine ((modifyPixel_changed f p b).trans (ih hps _)).congr fun x y => ?_
    by_cases hsame : p = ⟨x, y⟩
    · rw [if_neg (hsame ▸ hp), if_pos hsame, if_pos (hsame ▸ List.mem_cons_self)]
      rfl
    · have hmem : (⟨x, y⟩ : Pixel) ∈ p :: ps ↔ ⟨x, y⟩ ∈ ps := by
        rw [List.mem_cons, or_iff_right (Ne.symm hsame)]
      simp only [if_neg hsame, hmem]
      rfl

end Bitmap

namespace Brush

section Disc

/-- The columns, or the rows, that a brush reaches on a bitmap that has `n` of them. -/
def reach (brush : Brush) (center : Int) (n : Nat) : List Int :=
  Int.range (max (center - brush.radius) 0) (min (center + brush.radius) (n - 1) + 1)

def discRow (brush : Brush) (center : Pixel) (width : Nat) (y : Int) : List Pixel :=
  ((brush.reach center.x width).map (⟨·, y⟩)).filter (brush.covers center)

/-- The pixels that a brush covers on a bitmap, row by row. -/
def disc (brush : Brush) (center : Pixel) (width height : Nat) : List Pixel :=
  (brush.reach center.y height).flatMap (brush.discRow center width)

variable {brush : Brush} {center p : Pixel} {width height : Nat}

theorem mem_reach {c i : Int} {n : Nat} :
    i ∈ brush.reach c n ↔ (i - c).natAbs ≤ brush.radius ∧ 0 ≤ i ∧ i < n := by
  rw [reach, Int.mem_range_iff]
  omega

theorem nodup_reach (brush : Brush) (c : Int) (n : Nat) : (brush.reach c n).Nodup := by
  refine List.Nodup.map (fun i j h => ?_) List.nodup_range
  exact Int.natCast_inj.1 (Int.add_left_cancel h)

theorem mem_discRow {y : Int} : p ∈ brush.discRow center width y ↔
    p.y = y ∧ p.x ∈ brush.reach center.x width ∧ brush.covers center p := by
  rw [discRow, List.mem_filter, List.mem_map]
  constructor
  · rintro ⟨⟨x, hx, rfl⟩, hcovers⟩
    exact ⟨rfl, hx, hcovers⟩
  · rintro ⟨rfl, hx, hcovers⟩
    exact ⟨⟨p.x, hx, rfl⟩, hcovers⟩

/-- Clamping what the brush reaches to the bitmap drops no pixel that it covers. -/
theorem mem_disc : p ∈ brush.disc center width height ↔
    (0 ≤ p.x ∧ p.x < width) ∧ (0 ≤ p.y ∧ p.y < height) ∧ brush.covers center p := by
  simp only [disc, List.mem_flatMap, mem_discRow, mem_reach]
  constructor
  · rintro ⟨y, ⟨-, hy⟩, rfl, ⟨-, hx⟩, hcovers⟩
    exact ⟨hx, hy, hcovers⟩
  · rintro ⟨hx, hy, hcovers⟩
    obtain ⟨hnearX, hnearY⟩ := near_of_covers hcovers
    exact ⟨p.y, ⟨hnearY, hy⟩, rfl, ⟨hnearX, hx⟩, hcovers⟩

theorem nodup_disc (brush : Brush) (center : Pixel) (width height : Nat) :
    (brush.disc center width height).Nodup := by
  rw [disc, List.nodup_flatMap]
  constructor
  · intro y _
    refine ((nodup_reach ..).map fun x x' h => ?_).filter _
    exact congrArg Pixel.x h
  · refine (nodup_reach ..).imp fun hne => ?_
    rw [Function.onFun, List.disjoint_left]
    intro p hp hp'
    exact hne ((mem_discRow.1 hp).1.symm.trans (mem_discRow.1 hp').1)

theorem disc_eq_nil (h : width = 0 ∨ height = 0) : brush.disc center width height = [] := by
  rw [List.eq_nil_iff_forall_not_mem]
  intro p hp
  obtain ⟨hx, hy, -⟩ := mem_disc.1 hp
  omega

theorem stamp_eq_foldl (brush : Brush) (color : Color) (center : Pixel) (b : Bitmap) : brush.stamp color center b =
    (brush.disc center b.width b.height).foldl (fun b p => b.modifyPixel color.blendOver p) b := by
  have hdisc := Bitmap.foldl_modifyPixel_changed_of_nodup color.blendOver
    (nodup_disc brush center b.width b.height) b
  refine (stamp_changed brush color center b).unique (hdisc.congr_inside fun x y hx hy => ?_)
  have hmem : (⟨x, y⟩ : Pixel) ∈ brush.disc center b.width b.height ↔ brush.covers center ⟨x, y⟩ := by
    rw [mem_disc, and_iff_right ⟨Int.natCast_nonneg x, Int.ofNat_lt.2 hx⟩,
      and_iff_right ⟨Int.natCast_nonneg y, Int.ofNat_lt.2 hy⟩]
  simp only [hmem]

end Disc

section Words

def covers64? (brush : Brush) (center p : Pixel) : Option Bool := do
  let dx ← SignedWord.fit? 64 (p.x - center.x)
  let dy ← SignedWord.fit? 64 (p.y - center.y)
  let across ← SignedWord.fit? 64 (dx * dx)
  let down ← SignedWord.fit? 64 (dy * dy)
  let apart ← SignedWord.fit? 64 (across + down)
  let most ← SignedWord.fit? 64 (brush.radius * brush.radius)
  pure (apart ≤ most)

/-- Paints a pixel if the brush covers it. Its place is then a pair of words of 32 bits. -/
def dab64? (brush : Brush) (color : Color) (center p : Pixel) (b : Bitmap) : Option Bitmap := do
  if ← brush.covers64? center p then
    let x ← SignedWord.fit? 32 p.x
    let y ← SignedWord.fit? 32 p.y
    pure (b.modifyPixel color.blendOver ⟨x, y⟩)
  else pure b

/-- A stamp with words of 64 bits. -/
def stamp64? (brush : Brush) (color : Color) (center : Pixel) (b : Bitmap) : Option Bitmap :=
  if b.isEmpty then some b
  else do
    let r ← SignedWord.fit? 64 brush.radius
    let left ← SignedWord.fit? 64 (center.x - r)
    let right ← SignedWord.fit? 64 (center.x + r)
    let lastX ← SignedWord.fit? 64 (b.width - 1)
    let top ← SignedWord.fit? 64 (center.y - r)
    let bottom ← SignedWord.fit? 64 (center.y + r)
    let lastY ← SignedWord.fit? 64 (b.height - 1)
    (Int.range (max top 0) (min bottom lastY + 1)).foldlM (fun b y =>
      (Int.range (max left 0) (min right lastX + 1)).foldlM (fun b x => brush.dab64? color center ⟨x, y⟩ b) b) b

variable {brush : Brush} {color : Color} {center p : Pixel} {b : Bitmap}

theorem radius_le (hbrush : brush.width < 2 ^ 32) : brush.radius ≤ 2147483647 := by
  rw [radius]
  omega

theorem mul_self_bounds {i : Int} (h : i.natAbs ≤ 2147483647) : 0 ≤ i * i ∧ i * i ≤ 4611686014132420609 := by
  have hle := Int.natAbs_le_iff_mul_self_le.1 (show i.natAbs ≤ (2147483647 : Int).natAbs from h)
  exact ⟨mul_self_nonneg i, by omega⟩

theorem covers64?_eq (hbrush : brush.width < 2 ^ 32) (hx : (p.x - center.x).natAbs ≤ brush.radius)
    (hy : (p.y - center.y).natAbs ≤ brush.radius) : brush.covers64? center p = some (brush.covers center p) := by
  have hr := radius_le hbrush
  obtain ⟨hlowX, hhighX⟩ := mul_self_bounds (hx.trans hr)
  obtain ⟨hlowY, hhighY⟩ := mul_self_bounds (hy.trans hr)
  obtain ⟨hlowR, hhighR⟩ := mul_self_bounds (i := brush.radius) (by omega)
  rw [covers64?, SignedWord.fit?_bind (SignedWord.fits_64 (by omega) (by omega)),
    SignedWord.fit?_bind (SignedWord.fits_64 (by omega) (by omega)),
    SignedWord.fit?_bind (SignedWord.fits_64 (by omega) (by omega)),
    SignedWord.fit?_bind (SignedWord.fits_64 (by omega) (by omega)),
    SignedWord.fit?_bind (SignedWord.fits_64 (by omega) (by omega)),
    SignedWord.fit?_bind (SignedWord.fits_64 (by omega) (by omega))]
  rfl

theorem dab64?_eq (hbrush : brush.width < 2 ^ 32) {n k : Nat} (hn : n < 2 ^ 31) (hk : k < 2 ^ 31)
    (hx : p.x ∈ brush.reach center.x n) (hy : p.y ∈ brush.reach center.y k) : brush.dab64? color center p b =
      some (if brush.covers center p then b.modifyPixel color.blendOver p else b) := by
  obtain ⟨hnearX, hlowX, hhighX⟩ := mem_reach.1 hx
  obtain ⟨hnearY, hlowY, hhighY⟩ := mem_reach.1 hy
  rw [dab64?, covers64?_eq hbrush hnearX hnearY, Option.bind_eq_bind, Option.bind_some]
  split
  · rw [SignedWord.fit?_bind (SignedWord.fits_32 (by omega) (by omega)),
      SignedWord.fit?_bind (SignedWord.fits_32 (by omega) (by omega))]
    rfl
  · rfl

theorem stamp64?_eq (hbrush : brush.width < 2 ^ 32) (hx : SignedWord.Fits 32 center.x)
    (hy : SignedWord.Fits 32 center.y) (hwidth : b.width < 2 ^ 31) (hheight : b.height < 2 ^ 31) :
    brush.stamp64? color center b = some (brush.stamp color center b) := by
  have hr := radius_le hbrush
  have hrow (y : Int) (hy : y ∈ brush.reach center.y b.height) (b' : Bitmap) :
      (brush.reach center.x b.width).foldlM (fun b x => brush.dab64? color center ⟨x, y⟩ b) b' =
        some ((brush.discRow center b.width y).foldl (fun b p => b.modifyPixel color.blendOver p) b') := by
    rw [discRow, List.foldl_filter, List.foldl_map]
    exact (SignedWord.foldlM_eq_some (P := fun _ => True)
      (fun x hx b _ => ⟨dab64?_eq hbrush hwidth hheight hx hy, trivial⟩) trivial).1
  rw [stamp_eq_foldl, stamp64?]
  split
  next hempty =>
    rw [Bitmap.isEmpty, Bool.or_eq_true, decide_eq_true_iff, decide_eq_true_iff] at hempty
    rw [disc_eq_nil hempty]
    rfl
  next =>
    rw [disc, List.foldl_flatMap]
    obtain ⟨hlowX, hhighX⟩ := hx
    obtain ⟨hlowY, hhighY⟩ := hy
    rw [SignedWord.fit?_bind (SignedWord.fits_64 (by omega) (by omega)),
      SignedWord.fit?_bind (SignedWord.fits_64 (by omega) (by omega)),
      SignedWord.fit?_bind (SignedWord.fits_64 (by omega) (by omega)),
      SignedWord.fit?_bind (SignedWord.fits_64 (by omega) (by omega)),
      SignedWord.fit?_bind (SignedWord.fits_64 (by omega) (by omega)),
      SignedWord.fit?_bind (SignedWord.fits_64 (by omega) (by omega)),
      SignedWord.fit?_bind (SignedWord.fits_64 (by omega) (by omega))]
    exact (SignedWord.foldlM_eq_some (P := fun _ => True) (fun y hy b _ => ⟨hrow y hy b, trivial⟩) trivial).1

end Words

section Stamp

variable {brush : Brush} {color : Color} {center : Pixel} {b : Bitmap}

def InDisc (center : Pixel) (r : Nat) (p : Pixel) : Prop :=
  (p.x - center.x) ^ 2 + (p.y - center.y) ^ 2 ≤ (r : Int) ^ 2

instance (center : Pixel) (r : Nat) (p : Pixel) : Decidable (InDisc center r p) :=
  inferInstanceAs (Decidable (_ ≤ _))

/-- The pixels of a bitmap that are in a disc, each of them once. -/
structure IsDisc (center : Pixel) (r : Nat) (b : Bitmap) (ps : List Pixel) : Prop where
  nodup : ps.Nodup
  mem_iff (p : Pixel) : p ∈ ps ↔ (0 ≤ p.x ∧ p.x < b.width) ∧ (0 ≤ p.y ∧ p.y < b.height) ∧ InDisc center r p

theorem covers_iff {p : Pixel} : brush.covers center p ↔ InDisc center brush.radius p := by
  rw [covers, InDisc, decide_eq_true_iff, sq, sq, sq]

theorem isDisc_disc (brush : Brush) (center : Pixel) (b : Bitmap) :
    IsDisc center brush.radius b (brush.disc center b.width b.height) :=
  ⟨nodup_disc .., fun p => by rw [mem_disc, covers_iff]⟩

/-- A stamp blends each pixel of its disc that is on the bitmap once, and leaves all others as they are. -/
theorem stamp_paints_disc (brush : Brush) (color : Color) (center : Pixel) (b : Bitmap)
    (hbrush : brush.width < 2 ^ 32) (hx : SignedWord.Fits 32 center.x) (hy : SignedWord.Fits 32 center.y)
    (hwidth : b.width < 2 ^ 31) (hheight : b.height < 2 ^ 31) :
    IsDisc center ((brush.width - 1) / 2) b (brush.disc center b.width b.height) ∧
      brush.stamp color center b =
        (brush.disc center b.width b.height).foldl (fun b p => b.modifyPixel color.blendOver p) b ∧
      Bitmap.Changed (fun x y => if InDisc center ((brush.width - 1) / 2) ⟨x, y⟩ then color.blendOver else id) b
        (brush.stamp color center b) ∧
      brush.stamp64? color center b = some (brush.stamp color center b) := by
  refine ⟨isDisc_disc brush center b, stamp_eq_foldl brush color center b, ?_,
    stamp64?_eq hbrush hx hy hwidth hheight⟩
  refine (stamp_changed brush color center b).congr fun x y => ?_
  simp only [covers_iff, radius]

theorem stamp_paints_disc_widest :
    4294967295 < 2 ^ 32 ∧ SignedWord.Fits 32 (-2147483647) ∧ SignedWord.Fits 32 0 ∧
      IsDisc ⟨-2147483647, 0⟩ 2147483647 (Bitmap.blank 2 1) [⟨0, 0⟩] ∧
      Brush.stamp64? ⟨4294967295⟩ Color.black ⟨-2147483647, 0⟩ (Bitmap.blank 2 1) =
        some (Bitmap.ofPixels 2 1 #[Color.black, Color.clear]) := by
  have hx : SignedWord.Fits 32 (-2147483647) := by decide
  have hy : SignedWord.Fits 32 0 := by decide
  have hdisc : Brush.disc ⟨4294967295⟩ ⟨-2147483647, 0⟩ 2 1 = [⟨0, 0⟩] := by decide +kernel
  have hpainted : (Bitmap.blank 2 1).modifyPixel Color.black.blendOver ⟨0, 0⟩ =
      Bitmap.ofPixels 2 1 #[Color.black, Color.clear] := by
    decide +kernel
  have hsize : (Bitmap.blank 2 1).width = 2 ∧ (Bitmap.blank 2 1).height = 1 := ⟨rfl, rfl⟩
  obtain ⟨hspots, hstamp, -, hwords⟩ := stamp_paints_disc ⟨4294967295⟩ Color.black
    ⟨-2147483647, 0⟩ (Bitmap.blank 2 1) (by decide) hx hy (by decide) (by decide)
  rw [hsize.1, hsize.2, hdisc] at hspots hstamp
  rw [hstamp, List.foldl_cons, List.foldl_nil, hpainted] at hwords
  exact ⟨by decide, hx, hy, hspots, hwords⟩

end Stamp

end Brush

end BandCanvas
