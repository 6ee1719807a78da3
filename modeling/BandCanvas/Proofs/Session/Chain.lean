import BandCanvas.Session.Operation

namespace BandCanvas.Chain

variable {α : Type}

/-- The operation ends, for some answers, in a session with a result, after all that was said. -/
inductive Ends : Chain α → Session → List SessionEffect → Except SessionError α → Prop
  | done (s : Session) (said : List SessionEffect) (r : Except SessionError α) :
    Ends (.done s said r) s said r
  | opened {s s' : Session} {said said' : List SessionEffect}
    {resume : Answer OpenedDocument → Chain α} {r : Except SessionError α}
    (a : Answer OpenedDocument) :
    Ends (resume a) s' said' r → Ends (.awaitOpen s said resume) s' (said ++ said') r
  | answered {s s' : Session} {said said' : List SessionEffect}
    {resume : Answer Json → Chain α} {r : Except SessionError α} (a : Answer Json) :
    Ends (resume a) s' said' r → Ends (.await s said resume) s' (said ++ said') r

/-- What a property of the end of an operation has to be for the rest of it, after something was said. -/
def after (said : List SessionEffect)
    (P : Session → List SessionEffect → Except SessionError α → Prop) :
    Session → List SessionEffect → Except SessionError α → Prop :=
  fun s said' r => P s (said ++ said') r

/-- Whatever is answered, the operation ends with a property. -/
def Always : Chain α → (Session → List SessionEffect → Except SessionError α → Prop) → Prop
  | .done s said r, P => P s said r
  | .awaitOpen _ said resume, P => ∀ a, (resume a).Always (after said P)
  | .await _ said resume, P => ∀ a, (resume a).Always (after said P)

variable {P Q : Session → List SessionEffect → Except SessionError α → Prop} {c : Chain α}

theorem always_iff : c.Always P ↔ ∀ s said r, c.Ends s said r → P s said r := by
  induction c generalizing P with
  | done s said r =>
    constructor
    · intro h s' said' r' hends
      cases hends
      exact h
    · intro h
      exact h s said r (.done s said r)
  | awaitOpen s said resume ih =>
    constructor
    · intro h s' said' r hends
      cases hends with
      | opened a hrest => exact (ih a).1 (h a) _ _ _ hrest
    · intro h a
      exact (ih a).2 fun s' said' r hrest => h _ _ _ (.opened a hrest)
  | await s said resume ih =>
    constructor
    · intro h s' said' r hends
      cases hends with
      | answered a hrest => exact (ih a).1 (h a) _ _ _ hrest
    · intro h a
      exact (ih a).2 fun s' said' r hrest => h _ _ _ (.answered a hrest)

theorem Always.mono (h : c.Always P) (hPQ : ∀ s said r, P s said r → Q s said r) : c.Always Q :=
  always_iff.2 fun s said r hends => hPQ s said r (always_iff.1 h s said r hends)

/-- No operation waits for ever. -/
theorem exists_ends (c : Chain α) : ∃ s said r, c.Ends s said r := by
  induction c with
  | done s said r => exact ⟨s, said, r, .done s said r⟩
  | awaitOpen s said resume ih =>
    obtain ⟨s', said', r, hends⟩ := ih ⟨false, .ok (.errors [])⟩
    exact ⟨s', said ++ said', r, .opened _ hends⟩
  | await s said resume ih =>
    obtain ⟨s', said', r, hends⟩ := ih ⟨false, .ok (.errors [])⟩
    exact ⟨s', said ++ said', r, .answered _ hends⟩

end BandCanvas.Chain
