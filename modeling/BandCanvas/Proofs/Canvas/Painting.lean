import BandCanvas.Canvas.Raster
import BandCanvas.Proofs.Canvas.Changes
import BandCanvas.Proofs.Canvas.Pixels

namespace BandCanvas

/-- How a pixel is changed on a canvas with a backdrop. -/
inductive PixelChange (backdrop : Color) : (Color → Color) → Prop
  | keep : PixelChange backdrop fun c => c
  | clear : PixelChange backdrop fun _ => backdrop
  | blend (upper : Color) : PixelChange backdrop upper.blendOver

namespace Bitmap

/-- A bitmap that comes from another one by such changes. -/
inductive Painted (backdrop : Color) : Bitmap → Bitmap → Prop
  | refl (b : Bitmap) : Painted backdrop b b
  | modify {b b' : Bitmap} {f : Color → Color} (hf : PixelChange backdrop f) (x y : Nat) :
    Painted backdrop b b' → Painted backdrop b (b'.modify f x y)

namespace Painted

variable {backdrop : Color} {b b' b'' : Bitmap}

theorem trans (h : Painted backdrop b b') (h' : Painted backdrop b' b'') : Painted backdrop b b'' := by
  induction h' with
  | refl => exact h
  | modify hf x y _ ih => exact .modify hf x y ih

theorem foldl {α : Type} {step : Bitmap → α → Bitmap}
    (hstep : ∀ b a, Painted backdrop b (step b a)) (l : List α) (b : Bitmap) :
    Painted backdrop b (l.foldl step b) := by
  induction l generalizing b with
  | nil => exact .refl b
  | cons a l ih => exact (hstep b a).trans (ih (step b a))

theorem width_eq (h : Painted backdrop b b') : b'.width = b.width := by
  induction h with
  | refl => rfl
  | modify hf x y _ ih => exact (modify_width _ x y _).trans ih

theorem height_eq (h : Painted backdrop b b') : b'.height = b.height := by
  induction h with
  | refl => rfl
  | modify hf x y _ ih => exact (modify_height _ x y _).trans ih

end Painted

variable {backdrop : Color}

theorem modify_painted {f : Color → Color} (hf : PixelChange backdrop f) (x y : Nat) (b : Bitmap) :
    Painted backdrop b (b.modify f x y) :=
  .modify hf x y (.refl b)

theorem modifyPixel_painted {f : Color → Color} (hf : PixelChange backdrop f) (p : Pixel)
    (b : Bitmap) : Painted backdrop b (b.modifyPixel f p) := by
  rw [modifyPixel]
  split
  · exact modify_painted hf _ _ b
  · exact .refl b

theorem modifyRun_painted {f : Nat → Color → Color} (hf : ∀ x, PixelChange backdrop (f x))
    (y x stop : Nat) (b : Bitmap) : Painted backdrop b (b.modifyRun f y x stop) := by
  apply Painted.foldl
  intro b x
  exact modify_painted (hf x) x y b

theorem forRows_painted {f : Nat → Bitmap → Bitmap} (hf : ∀ y b, Painted backdrop b (f y b))
    (y stop : Nat) (b : Bitmap) : Painted backdrop b (b.forRows f y stop) := by
  apply Painted.foldl
  intro b y
  exact hf y b

theorem fillRow_painted {f : Color → Color} (hf : PixelChange backdrop f) (edges : List Edge)
    (y : Nat) (b : Bitmap) : Painted backdrop b (b.fillRow f edges y) := by
  apply Painted.foldl
  rintro b ⟨x, stop⟩
  exact modifyRun_painted (fun _ => hf) y x stop b

theorem fillOutlines_painted {f : Color → Color} (hf : PixelChange backdrop f)
    (outlines : List (List Point)) (b : Bitmap) : Painted backdrop b (b.fillOutlines f outlines) := by
  apply forRows_painted
  intro y b
  exact fillRow_painted hf _ y b

end Bitmap

open Bitmap

variable {backdrop : Color}

theorem Brush.stamp_painted (brush : Brush) (color : Color) (center : Pixel) (b : Bitmap) :
    Painted backdrop b (brush.stamp color center b) := by
  apply forRows_painted
  intro y b
  apply modifyRun_painted
  intro x
  by_cases hcovers : brush.covers center ⟨x, y⟩ = true
  · simp only [hcovers, if_true]
    exact .blend color
  · simp only [hcovers]
    exact .keep

namespace Segment

theorem paintClipped_painted (s : Segment) (brush : Brush) (color : Color) (b : Bitmap) :
    Painted backdrop b (s.paintClipped brush color b) := by
  rw [paintClipped]
  split
  · apply Painted.foldl
    intro b p
    exact modifyPixel_painted (.blend color) p b
  · have hbody : Painted backdrop b (b.fillOutlines color.blendOver [s.body brush.width]) :=
      fillOutlines_painted (.blend color) _ b
    have hfirst := hbody.trans (brush.stamp_painted color (Pixel.ofPoint s.start) _)
    exact hfirst.trans (brush.stamp_painted color (Pixel.ofPoint s.stop) _)

theorem paint_painted (s : Segment) (brush : Brush) (color : Color) (b : Bitmap) :
    Painted backdrop b (s.paint brush color b) := by
  rw [paint]
  split
  next s _ => exact s.paintClipped_painted brush color b
  next => exact .refl b

end Segment

namespace Raster

theorem strokeLine_painted (style : Style) (closed : Bool) (points : List Point) (b : Bitmap) :
    Painted backdrop b (strokeLine style closed points b) := by
  unfold strokeLine
  split
  next p => exact Brush.stamp_painted _ _ _ b
  next =>
    apply Painted.foldl
    intro b s
    exact s.paint_painted _ _ b

variable (r : Raster)

theorem stroke_painted (lines : List (Bool × List Point)) :
    Painted r.backdrop r.pixels (r.stroke lines).pixels := by
  apply Painted.foldl
  rintro b ⟨closed, points⟩
  exact strokeLine_painted _ closed points b

variable {r} {picture : Bitmap} {source target : DeviceRect} {r' : Raster}

theorem drawImage?_painted (h : r.drawImage? picture source target = some r') :
    Painted r.backdrop r.pixels r'.pixels ∧ r'.backdrop = r.backdrop := by
  rw [drawImage?] at h
  split at h
  · cases h
    exact ⟨.refl _, rfl⟩
  split at h
  · cases h
    exact ⟨.refl _, rfl⟩
  dsimp only at h
  split at h
  · cases h
  · obtain rfl := Option.some.inj h
    refine ⟨?_, rfl⟩
    apply forRows_painted
    intro y b
    apply modifyRun_painted
    intro x
    split
    next upper _ => exact .blend upper
    next => exact .keep

variable (r)

theorem apply_painted {call : CanvasCall}
    (h : ∀ w h, call = .resize w h → r.pixels.width = w ∧ r.pixels.height = h) :
    Painted r.backdrop r.pixels (r.apply call).pixels := by
  cases call with
  | resize w h' =>
    have hsame : r.apply (.resize w h') = r := if_pos (h w h' rfl)
    rw [hsame]
    exact .refl _
  | clearRect box => exact fillOutlines_painted .clear _ _
  | fillRect box => exact fillOutlines_painted (.blend _) _ _
  | strokeRect box => exact r.stroke_painted _
  | fill => exact fillOutlines_painted (.blend _) _ _
  | stroke => exact r.stroke_painted _
  | drawImage picture source target =>
    rw [apply]
    cases hdrawn : r.drawImage? picture source target with
    | none => exact .refl _
    | some r' => exact (drawImage?_painted hdrawn).1
  | fillText | strokeText => exact .refl _
  | save | restore | transform | fillColor | strokeColor | lineWidth | font | beginPath | moveTo | lineTo
  | arcTo | bezierTo | rect | closePath =>
    rw [apply_pixels rfl]
    exact .refl _

theorem apply_backdrop (call : CanvasCall) : (r.apply call).backdrop = r.backdrop := by
  cases call with
  | resize w h =>
    rw [apply, resize]
    split <;> rfl
  | lineWidth w =>
    rw [apply]
    split <;> rfl
  | drawImage picture source target =>
    rw [apply]
    cases hdrawn : r.drawImage? picture source target with
    | none => rfl
    | some r' => exact (drawImage?_painted hdrawn).2
  | _ => rfl

end Raster

end BandCanvas
