import Mathlib.Algebra.Order.Ring.Int

namespace BandCanvas.SignedWord

variable {bits : Nat} {i : Int}

def Fits (bits : Nat) (i : Int) : Prop :=
  -2 ^ (bits - 1) ≤ i ∧ i < 2 ^ (bits - 1)

instance (bits : Nat) (i : Int) : Decidable (Fits bits i) :=
  inferInstanceAs (Decidable (_ ∧ _))

/-- The result of an operation, if a word holds it. -/
def fit? (bits : Nat) (i : Int) : Option Int :=
  if Fits bits i then some i else none

theorem fit?_eq (h : Fits bits i) : fit? bits i = some i :=
  if_pos h

theorem eq_of_fit? {j : Int} (h : fit? bits i = some j) : j = i := by
  rw [fit?] at h
  split at h
  · exact (Option.some.inj h).symm
  · cases h

theorem fit?_bind {α : Type} (h : Fits bits i) (f : Int → Option α) : (fit? bits i >>= f) = f i := by
  rw [fit?_eq h]
  rfl

theorem fits_32 (hlow : -2147483648 ≤ i) (hhigh : i < 2147483648) : Fits 32 i :=
  ⟨hlow, hhigh⟩

theorem fits_64 (hlow : -9223372036854775808 ≤ i) (hhigh : i < 9223372036854775808) : Fits 64 i :=
  ⟨hlow, hhigh⟩

section Loops

variable {α β : Type} {step? : β → α → Option β} {step : β → α → β} {l : List α} {b b' : β}

/-- A loop of steps that all succeed where `P` holds, and keep it. -/
theorem foldlM_eq_some {P : β → Prop} (h : ∀ a ∈ l, ∀ b, P b → step? b a = some (step b a) ∧ P (step b a))
    (hb : P b) : l.foldlM step? b = some (l.foldl step b) ∧ P (l.foldl step b) := by
  induction l generalizing b with
  | nil => exact ⟨rfl, hb⟩
  | cons a l ih =>
    obtain ⟨hstep, hkept⟩ := h a List.mem_cons_self b hb
    rw [List.foldlM_cons, hstep]
    exact ih (fun a' ha' => h a' (List.mem_cons_of_mem _ ha')) hkept

theorem foldl_of_foldlM (h : ∀ b a b', step? b a = some b' → b' = step b a) (hl : l.foldlM step? b = some b') :
    b' = l.foldl step b := by
  induction l generalizing b with
  | nil => exact (Option.some.inj hl).symm
  | cons a l ih =>
    rw [List.foldlM_cons] at hl
    obtain ⟨b₁, hstep, hrest⟩ := Option.bind_eq_some_iff.1 hl
    rw [List.foldl_cons, ← h b a b₁ hstep]
    exact ih hrest

end Loops

end BandCanvas.SignedWord
