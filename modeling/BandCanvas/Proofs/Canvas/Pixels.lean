import BandCanvas.Canvas.Raster

namespace BandCanvas

namespace CanvasCall

def changesPixels : CanvasCall → Bool
  | .resize .. | .clearRect _ | .fillRect _ | .strokeRect _ | .fill | .stroke | .fillText ..
  | .strokeText .. | .drawImage .. => true
  | _ => false

def setsStyle : CanvasCall → Bool
  | .transform _ | .fillColor _ | .strokeColor _ | .lineWidth _ | .font _ => true
  | _ => false

theorem changesPixels_of_setsStyle {c : CanvasCall} (h : c.setsStyle = true) :
    c.changesPixels = false := by
  cases c <;> first | rfl | cases h

end CanvasCall

theorem Raster.apply_pixels {c : CanvasCall} (h : c.changesPixels = false) (r : Raster) :
    (r.apply c).pixels = r.pixels := by
  cases c with
  | lineWidth w =>
    rw [apply]
    split <;> rfl
  | resize | clearRect | fillRect | strokeRect | fill | stroke | fillText | strokeText | drawImage =>
    cases h
  | _ => rfl

theorem Raster.foldl_pixels {cs : List CanvasCall} (h : ∀ c ∈ cs, c.changesPixels = false) (r : Raster) :
    (cs.foldl apply r).pixels = r.pixels := by
  induction cs generalizing r with
  | nil => rfl
  | cons c cs ih =>
    obtain ⟨hc, hcs⟩ := List.forall_mem_cons.1 h
    exact (ih hcs (r.apply c)).trans (apply_pixels hc r)

end BandCanvas
