import BandCanvas.Proofs.Canvas.Words

namespace BandCanvas

/-- Whether a call paints on a canvas in memory, or gives it another size. -/
def CanvasCall.paints : CanvasCall → Bool
  | .resize .. | .clearRect _ | .fillRect _ | .strokeRect _ | .fill | .stroke | .drawImage .. => true
  | _ => false

def Color.IsOpaque (c : Color) : Prop :=
  c.alpha = 255

instance (c : Color) : Decidable c.IsOpaque :=
  inferInstanceAs (Decidable (c.alpha = 255))

theorem Color.isOpaque_blendOver (upper : Color) {lower : Color} (h : lower.IsOpaque) :
    (upper.blendOver lower).IsOpaque := by
  have hlower : lower.alpha.toNat = 255 := congrArg UInt8.toNat h
  have hlt : upper.alpha.toNat < 256 := upper.alpha.toNat_lt
  rw [blendOver]
  split
  · exact h
  split
  · assumption
  · have htotal : upper.alpha.toNat + lower.alpha.toNat * (255 - upper.alpha.toNat) / 255 = 255 := by
      rw [hlower, Nat.mul_div_cancel_left _ (by decide)]
      omega
    simp only [IsOpaque, htotal]
    rfl

theorem PixelChange.isOpaque {backdrop c : Color} {f : Color → Color} (hf : PixelChange backdrop f)
    (hbackdrop : backdrop.IsOpaque) (hc : c.IsOpaque) : (f c).IsOpaque := by
  cases hf with
  | keep => exact hc
  | clear => exact hbackdrop
  | blend upper => exact upper.isOpaque_blendOver hc

namespace Bitmap

def IsOpaque (b : Bitmap) : Prop :=
  ∀ c ∈ b.pixels, c.IsOpaque

instance (b : Bitmap) : Decidable b.IsOpaque :=
  inferInstanceAs (Decidable (∀ c ∈ b.pixels, c.IsOpaque))

variable {backdrop : Color} {b b' : Bitmap}

theorem mem_modify {f : Color → Color} {x y : Nat} {c : Color} (hc : c ∈ (b.modify f x y).pixels) :
    c ∈ b.pixels ∨ ∃ c' ∈ b.pixels, c = f c' := by
  rw [modify] at hc
  split at hc
  · obtain ⟨i, hi, rfl⟩ := Array.mem_iff_getElem.1 hc
    rw [Array.getElem_modify]
    rw [Array.size_modify] at hi
    split
    · exact .inr ⟨b.pixels[i], Array.getElem_mem hi, rfl⟩
    · exact .inl (Array.getElem_mem hi)
  · exact .inl hc

namespace Painted

theorem isOpaque (h : Painted backdrop b b') (hbackdrop : backdrop.IsOpaque) (hb : b.IsOpaque) :
    b'.IsOpaque := by
  induction h with
  | refl => exact hb
  | modify hf x y _ ih =>
    intro c hc
    rcases mem_modify hc with hold | ⟨c', hold, rfl⟩
    · exact ih c hold
    · exact hf.isOpaque hbackdrop (ih c' hold)

end Painted

end Bitmap

namespace Raster

variable {r : Raster}

/-- Calls that leave the size of a canvas paint on it at most. -/
theorem run_painted {calls : List CanvasCall}
    (h : ∀ w h, .resize w h ∈ calls → w = r.pixels.width ∧ h = r.pixels.height) :
    Bitmap.Painted r.backdrop r.pixels (calls.foldl apply r).pixels := by
  induction calls generalizing r with
  | nil => exact .refl _
  | cons call calls ih =>
    have hcall : Bitmap.Painted r.backdrop r.pixels (r.apply call).pixels := by
      apply r.apply_painted
      rintro w h' rfl
      obtain ⟨hw, hh⟩ := h w h' List.mem_cons_self
      exact ⟨hw.symm, hh.symm⟩
    have hcalls : Bitmap.Painted (r.apply call).backdrop (r.apply call).pixels
        (calls.foldl apply (r.apply call)).pixels := by
      apply ih
      intro w h' hmem
      rw [hcall.width_eq, hcall.height_eq]
      exact h w h' (List.mem_cons_of_mem call hmem)
    rw [apply_backdrop] at hcalls
    exact hcall.trans hcalls

theorem pixels_of_not_paints {call : CanvasCall} (h : call.paints = false) (r : Raster) :
    (r.apply call).pixels = r.pixels := by
  cases call with
  | resize | clearRect | fillRect | strokeRect | fill | stroke | drawImage => cases h
  | fillText | strokeText => rfl
  | _ => exact apply_pixels rfl r

theorem applied32?_of_not_paints {call : CanvasCall} (h : call.paints = false) (r : Raster) :
    r.applied32? call = some (r.apply call) := by
  cases call with
  | strokeRect | stroke | drawImage => cases h
  | _ => rfl

/-- An opaque canvas stays opaque and whole under all calls that leave its size, wherever thin lines are
stepped. -/
theorem opaque_stays (r : Raster) (calls : List CanvasCall) (hpixels : r.pixels.IsOpaque)
    (hbackdrop : r.backdrop.IsOpaque)
    (hsize : ∀ w h, .resize w h ∈ calls → w = r.pixels.width ∧ h = r.pixels.height) :
    let after := calls.foldl apply r
    (after.pixels.IsOpaque ∧ after.pixels.width = r.pixels.width ∧ after.pixels.height = r.pixels.height ∧
      after.pixels.pixels.size = r.pixels.width * r.pixels.height) ∧
    (∀ r', calls.foldlM applied32? r = some r' → r' = after) ∧
    (∀ (r' : Raster) (call : CanvasCall), r'.applied32? call = none → r'.Fails call) ∧
    (∀ (b : Bitmap) (ps : List Pixel) (c : Color), b.IsOpaque →
      (ps.foldl (fun b p => b.modifyPixel c.blendOver p) b).IsOpaque) ∧
    ∀ (r' : Raster) (call : CanvasCall), call.paints = false →
      r'.applied32? call = some (r'.apply call) ∧ (r'.apply call).pixels = r'.pixels := by
  intro after
  have hpainted : Bitmap.Painted r.backdrop r.pixels after.pixels := run_painted hsize
  refine ⟨⟨hpainted.isOpaque hbackdrop hpixels, hpainted.width_eq, hpainted.height_eq, ?_⟩, ?_, ?_, ?_, ?_⟩
  · rw [after.pixels.size_pixels, hpainted.width_eq, hpainted.height_eq]
  · intro r' hrun
    exact SignedWord.foldl_of_foldlM (fun _ _ _ => apply_of_applied32?) hrun
  · intro r' call hfails
    exact fails_of_applied32? hfails
  · intro b ps c hb
    have hsteps : Bitmap.Painted r.backdrop b (ps.foldl (fun b p => b.modifyPixel c.blendOver p) b) :=
      .foldl (fun b p => Bitmap.modifyPixel_painted (.blend c) p b) ps b
    exact hsteps.isOpaque hbackdrop hb
  · intro r' call hcall
    exact ⟨applied32?_of_not_paints hcall r', pixels_of_not_paints hcall r'⟩

theorem opaque_stays_white :
    let page : Raster := ⟨Bitmap.filled 2 2 Color.white, Color.white, Pen.initial, Path.empty⟩
    let calls : List CanvasCall :=
      [.restore, .fillColor ⟨10, 20, 30, 128⟩, .fillRect ⟨-Binary64.infinity, 0, Binary64.infinity, 2⟩,
        .resize 2 2, .strokeRect ⟨Binary64.nan, 1, 1e300, 1⟩]
    let nothing : CanvasCall := .drawImage (Bitmap.blank 0 0) ⟨Binary64.nan, Binary64.nan, 1, 1⟩ ⟨0, 0, 2, 2⟩
    (page.pixels.IsOpaque ∧ (calls.foldl apply page).pixels.IsOpaque ∧
      (calls.foldl apply page).pixels.pixels.size = 4) ∧
    (∃ r', calls.foldlM applied32? page = some r' ∧ r' = calls.foldl apply page) ∧
    page.applied32? nothing = none ∧ page.Fails nothing := by
  intro page calls nothing
  have hpixels : page.pixels.IsOpaque := by decide
  have hsize : ∀ w h, .resize w h ∈ calls → w = page.pixels.width ∧ h = page.pixels.height := by
    intro w h hmem
    have hsame : w = 2 ∧ h = 2 := by simpa [calls] using hmem
    exact hsame
  obtain ⟨⟨halpha, -, -, hwhole⟩, hrun, hfails, -⟩ := opaque_stays page calls hpixels rfl hsize
  have hruns : (calls.foldlM applied32? page).isSome = true := by decide +kernel
  have hnothing : (page.applied32? nothing).isNone = true := by decide +kernel
  rw [Option.isNone_iff_eq_none] at hnothing
  obtain ⟨r', hr'⟩ := Option.isSome_iff_exists.1 hruns
  exact ⟨⟨hpixels, halpha, hwhole⟩, ⟨r', hr', hrun r' hr'⟩, hnothing, hfails page nothing hnothing⟩

end Raster

end BandCanvas
