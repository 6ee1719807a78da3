import BandCanvas.Proofs.Canvas.Drawing

namespace BandCanvas

/-- Every style that is saved is taken back, and no other. -/
inductive Bracketed : List CanvasCall → Prop
  | nil : Bracketed []
  | call {c : CanvasCall} {cs : List CanvasCall} : c.stacks = false → Bracketed cs →
    Bracketed (c :: cs)
  | saved {cs ds : List CanvasCall} : Bracketed cs → Bracketed ds →
    Bracketed (.save :: cs ++ .restore :: ds)

namespace Bracketed

variable {cs ds : List CanvasCall}

theorem append (h : Bracketed cs) (h' : Bracketed ds) : Bracketed (cs ++ ds) := by
  induction h with
  | nil => exact h'
  | call hc _ ih => exact .call hc ih
  | @saved cs es hcs _ _ ih =>
    rw [List.append_assoc]
    exact .saved hcs ih

theorem framed (h : Bracketed cs) : Bracketed (.save :: cs ++ [.restore]) :=
  .saved h .nil

theorem of_forall (h : ∀ c ∈ cs, c.stacks = false) : Bracketed cs := by
  induction cs with
  | nil => exact .nil
  | cons c cs ih =>
    obtain ⟨hc, hcs⟩ := List.forall_mem_cons.1 h
    exact .call hc (ih hcs)

/-- Bracketed calls leave the styles that were saved before, and do not look at them. -/
theorem balanced (h : Bracketed cs) : Balanced cs := by
  induction h with
  | nil => exact .nil
  | call hc _ ih => exact (Balanced.single hc).append ih
  | @saved cs ds _ _ ihcs ihds =>
    have hframe := ihcs.framed.append ihds
    rw [List.append_assoc] at hframe
    exact hframe

end Bracketed

end BandCanvas
