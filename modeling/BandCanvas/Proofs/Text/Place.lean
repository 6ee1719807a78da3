import BandCanvas.Text.Cursor

namespace BandCanvas

namespace Cursor

/-- A cursor that was reached by moving forward through a text. -/
def In (text : List Char) (c : Cursor) : Prop :=
  (start text).Follows c

theorem In.follows {text : List Char} {c d : Cursor} (h : c.In text) (h' : c.Follows d) :
    d.In text :=
  Follows.trans h h'

variable {text : List Char} {c : Cursor}

theorem In.text_eq (h : c.In text) : ∃ s, text = s ++ c.rest ∧ c.offset = byteLength s := by
  obtain ⟨s, hs, hc⟩ := h
  refine ⟨s, hs, ?_⟩
  rw [hc]
  exact Nat.zero_add _

theorem In.offset_add (h : c.In text) : c.offset + byteLength c.rest = byteLength text := by
  obtain ⟨s, hs, ho⟩ := h.text_eq
  rw [ho, hs, byteLength_append]

theorem In.rest_eq_nil_iff (h : c.In text) : c.rest = [] ↔ c.offset = byteLength text := by
  have hsum := h.offset_add
  constructor
  · intro hnil
    rw [hnil] at hsum
    exact hsum
  · intro ho
    cases hrest : c.rest with
    | nil => rfl
    | cons x s =>
      have hx := x.utf8Size_pos
      rw [hrest, byteLength_cons] at hsum
      omega

@[simp] theorem past_rest (c : Cursor) (s r : List Char) : (c.past s r).rest = r := rfl

@[simp] theorem past_offset (c : Cursor) (s r : List Char) :
    (c.past s r).offset = c.offset + byteLength s := rfl

@[simp] theorem past_previous (c : Cursor) (s r : List Char) :
    (c.past s r).previous = s.getLast?.or c.previous := rfl

theorem follows_seek (target offset : Nat) (previous : Option Char) (s : List Char) :
    (⟨offset, previous, s⟩ : Cursor).Follows (seek target offset previous s) := by
  induction s generalizing offset previous with
  | nil => exact Follows.refl _
  | cons c s ih =>
    rw [seek]
    split
    · have hstep : (⟨offset, previous, c :: s⟩ : Cursor).Follows
          ⟨offset + c.utf8Size, some c, s⟩ := ⟨[c], rfl, by simp [past]⟩
      exact hstep.trans (ih _ _)
    · exact Follows.refl _

theorem atOffset_in (text : String) (n : Nat) : (atOffset text n).In text.toList :=
  follows_seek n 0 none text.toList

/-- Seeking the offset behind `s` stops there: every character of the rest is too long to pass. -/
theorem seek_append (offset : Nat) (previous : Option Char) (s r : List Char) :
    seek (offset + byteLength s) offset previous (s ++ r) =
      ⟨offset + byteLength s, s.getLast?.or previous, r⟩ := by
  induction s generalizing offset previous with
  | nil =>
    cases r with
    | nil => rfl
    | cons c r =>
      have hc := c.utf8Size_pos
      simp only [List.nil_append, byteLength_nil, Nat.add_zero, seek]
      rw [if_neg (by omega)]
      rfl
  | cons c s ih =>
    have hle : offset + c.utf8Size ≤ offset + (c.utf8Size + byteLength s) := by omega
    rw [List.cons_append, byteLength_cons, seek, if_pos hle, ← Nat.add_assoc, ih]
    simp [List.getLast?_cons]

theorem In.atOffset_eq {text : String} {c : Cursor} (h : c.In text.toList) :
    atOffset text c.offset = c := by
  obtain ⟨s, hs, hc⟩ := h
  have ht : text.toList = s ++ c.rest := hs
  have ho : c.offset = 0 + byteLength s := by rw [hc]; rfl
  rw [atOffset, ht, ho, seek_append]
  exact hc.symm

end Cursor

end BandCanvas
