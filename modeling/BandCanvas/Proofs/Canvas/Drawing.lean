import BandCanvas.Canvas.Pen

namespace BandCanvas

def CanvasCall.draws : CanvasCall → Bool
  | .resize .. | .save | .restore | .transform _ | .fillColor _ | .strokeColor _ | .lineWidth _
  | .font _ | .drawImage .. => false
  | _ => true

def CanvasCall.stacks : CanvasCall → Bool
  | .save | .restore => true
  | _ => false

namespace Pen

def run (p : Pen) (cs : List CanvasCall) : Pen :=
  cs.foldl apply p

/-- The drawing calls, each with the style it is made under. -/
def drawings (p : Pen) : List CanvasCall → List (Style × CanvasCall)
  | [] => []
  | c :: cs => (if c.draws then [(p.style, c)] else []) ++ drawings (p.apply c) cs

variable {p q : Pen} {c : CanvasCall} {cs ds : List CanvasCall}

theorem run_append (p : Pen) (cs ds : List CanvasCall) : p.run (cs ++ ds) = (p.run cs).run ds :=
  List.foldl_append

theorem drawings_append (p : Pen) (cs ds : List CanvasCall) :
    p.drawings (cs ++ ds) = p.drawings cs ++ (p.run cs).drawings ds := by
  induction cs generalizing p with
  | nil => rfl
  | cons c cs ih =>
    simp only [List.cons_append, drawings, ih, List.append_assoc]
    rfl

theorem apply_of_draws (p : Pen) (h : c.draws) : p.apply c = p := by
  cases c <;> first | rfl | cases h

theorem run_of_draws (p : Pen) (h : ∀ c ∈ cs, c.draws) : p.run cs = p := by
  induction cs with
  | nil => rfl
  | cons c cs ih =>
    have hcs : ∀ c ∈ cs, c.draws := fun d hd => h d (List.mem_cons_of_mem c hd)
    show (p.apply c).run cs = p
    rw [apply_of_draws p (h c List.mem_cons_self), ih hcs]

end Pen

/-- Calls that leave the saved styles as they were, and do not look at them. -/
structure Balanced (cs : List CanvasCall) : Prop where
  saved : ∀ p : Pen, (p.run cs).saved = p.saved
  style : ∀ p q : Pen, p.style = q.style → (p.run cs).style = (q.run cs).style
  drawings : ∀ p q : Pen, p.style = q.style → p.drawings cs = q.drawings cs

namespace Balanced

variable {c : CanvasCall} {cs ds : List CanvasCall}

theorem nil : Balanced [] :=
  ⟨fun _ => rfl, fun _ _ h => h, fun _ _ _ => rfl⟩

theorem append (h : Balanced cs) (h' : Balanced ds) : Balanced (cs ++ ds) where
  saved p := by rw [Pen.run_append, h'.saved, h.saved]
  style p q hpq := by
    rw [Pen.run_append, Pen.run_append]
    exact h'.style _ _ (h.style p q hpq)
  drawings p q hpq := by
    rw [Pen.drawings_append, Pen.drawings_append, h.drawings p q hpq,
      h'.drawings _ _ (h.style p q hpq)]

theorem single (h : c.stacks = false) : Balanced [c] where
  saved p := by cases c <;> first | rfl | cases h
  style p q hpq := by
    cases c with
    | save | restore => cases h
    | transform | fillColor | strokeColor | lineWidth | font =>
      simp only [Pen.run, List.foldl_cons, List.foldl_nil, Pen.apply, hpq]
    | _ => exact hpq
  drawings p q hpq := by simp only [Pen.drawings, hpq]

theorem of_forall (h : ∀ c ∈ cs, c.stacks = false) : Balanced cs := by
  induction cs with
  | nil => exact nil
  | cons c cs ih =>
    have hcs : Balanced cs := ih fun d hd => h d (List.mem_cons_of_mem c hd)
    exact (single (h c List.mem_cons_self)).append hcs

theorem of_draws (h : ∀ c ∈ cs, c.draws) : Balanced cs :=
  of_forall fun c hc => by
    have hdraws := h c hc
    cases c <;> first | rfl | cases hdraws

/-- What is done between saving and taking back has no effect on the pen. -/
theorem run_framed (h : Balanced cs) (p : Pen) : p.run (.save :: cs ++ [.restore]) = p := by
  have hsaved : (p.save.run cs).saved = p.style :: p.saved := h.saved p.save
  show (p.save.run (cs ++ [.restore])) = p
  rw [Pen.run_append]
  show (p.save.run cs).restore = p
  rw [Pen.restore, hsaved]

theorem framed (h : Balanced cs) : Balanced (.save :: cs ++ [.restore]) where
  saved p := by rw [h.run_framed]
  style p q hpq := by rw [h.run_framed, h.run_framed, hpq]
  drawings p q hpq := by
    show p.save.drawings (cs ++ [.restore]) = q.save.drawings (cs ++ [.restore])
    rw [Pen.drawings_append, Pen.drawings_append, h.drawings p.save q.save hpq]
    rfl

end Balanced

end BandCanvas
