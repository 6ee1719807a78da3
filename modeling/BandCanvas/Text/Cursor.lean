namespace BandCanvas

def byteLength (s : List Char) : Nat :=
  s.foldl (fun n c => n + c.utf8Size) 0

theorem foldl_utf8Size (s : List Char) (n : Nat) :
    s.foldl (fun n c => n + c.utf8Size) n = n + byteLength s := by
  induction s generalizing n with
  | nil => rfl
  | cons c s ih =>
    simp only [byteLength, List.foldl_cons] at ih ⊢
    rw [ih, ih (0 + c.utf8Size)]
    omega

@[simp] theorem byteLength_nil : byteLength [] = 0 := rfl

@[simp] theorem byteLength_cons (c : Char) (s : List Char) :
    byteLength (c :: s) = c.utf8Size + byteLength s := by
  rw [byteLength, List.foldl_cons, foldl_utf8Size, Nat.zero_add]

@[simp] theorem byteLength_append (s t : List Char) :
    byteLength (s ++ t) = byteLength s + byteLength t := by
  rw [byteLength, List.foldl_append, foldl_utf8Size]
  rfl

/-- A place in a text: the bytes before it, the character just before it and the text after it. -/
structure Cursor where
  offset : Nat
  previous : Option Char
  rest : List Char
  deriving DecidableEq, Repr

namespace Cursor

def start (text : List Char) : Cursor :=
  ⟨0, none, text⟩

def past (c : Cursor) (s r : List Char) : Cursor :=
  ⟨c.offset + byteLength s, s.getLast?.or c.previous, r⟩

def finish (c : Cursor) : Cursor :=
  c.past c.rest []

def atEnd (c : Cursor) : Bool :=
  c.rest.isEmpty

def peek (c : Cursor) : Option Char :=
  c.rest.head?

def length (c : Cursor) : Nat :=
  c.offset + byteLength c.rest

def seek (target offset : Nat) (previous : Option Char) : List Char → Cursor
  | [] => ⟨offset, previous, []⟩
  | c :: rest =>
    if offset + c.utf8Size ≤ target then seek target (offset + c.utf8Size) (some c) rest
    else ⟨offset, previous, c :: rest⟩

/-- The last place between two characters that is not after the byte offset `target`. -/
def atOffset (text : String) (target : Nat) : Cursor :=
  seek target 0 none text.toList

def Follows (c d : Cursor) : Prop :=
  ∃ s, c.rest = s ++ d.rest ∧ d = c.past s d.rest

theorem past_past (c : Cursor) (s t r r' : List Char) :
    (c.past s r).past t r' = c.past (s ++ t) r' := by
  simp [past, Nat.add_assoc, List.getLast?_append, Option.or_assoc]

theorem Follows.refl (c : Cursor) : c.Follows c :=
  ⟨[], rfl, rfl⟩

theorem Follows.trans {c d e : Cursor} (h : c.Follows d) (h' : d.Follows e) : c.Follows e := by
  obtain ⟨s, hs, hd⟩ := h
  obtain ⟨t, ht, he⟩ := h'
  refine ⟨s ++ t, by rw [hs, ht, List.append_assoc], ?_⟩
  rw [he, hd, past_past]
  rfl

theorem follows_past {c : Cursor} {s r : List Char} (h : c.rest = s ++ r) : c.Follows (c.past s r) :=
  ⟨s, h, rfl⟩

theorem Follows.length_le {c d : Cursor} (h : c.Follows d) : d.rest.length ≤ c.rest.length := by
  obtain ⟨s, hs, _⟩ := h
  simp [hs]

theorem Follows.offset_le {c d : Cursor} (h : c.Follows d) : c.offset ≤ d.offset := by
  obtain ⟨s, _, hd⟩ := h
  rw [hd]
  exact Nat.le_add_right ..

theorem Follows.length_eq {c d : Cursor} (h : c.Follows d) : d.length = c.length := by
  obtain ⟨s, hs, hd⟩ := h
  rw [hd]
  simp [length, past, hs, Nat.add_assoc]

end Cursor

end BandCanvas
