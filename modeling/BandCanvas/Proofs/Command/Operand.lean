import BandCanvas.Command.Decoder
import BandCanvas.Proofs.Text.Place

namespace BandCanvas

namespace Numeral

/-- How far a numeral goes is decided by the character that ends it. -/
theorem splitDigits_stop {b : Bool} {u v w : List Char} {x : Char}
    (h : splitDigits b (u ++ x :: v) = (u, x :: v)) :
    splitDigits b (u ++ x :: w) = (u, x :: w) := by
  induction u generalizing b with
  | nil =>
    simp only [List.nil_append, splitDigits] at h ⊢
    split at h
    · cases h
    next hx => rw [if_neg hx]
  | cons c u ih =>
    simp only [List.cons_append, splitDigits] at h ⊢
    split at h
    next hc =>
      have hu : splitDigits (b || c == '.') (u ++ x :: v) = (u, x :: v) := by
        simp only [Prod.mk.injEq, List.cons.injEq, true_and] at h
        exact Prod.ext h.1 h.2
      rw [if_pos hc, ih hu]
    · cases h

theorem split_of_head_ne {s : List Char} (h : s.head? ≠ some '-') : split s = splitDigits false s := by
  cases s with
  | nil => rfl
  | cons c s =>
    have hc : c ≠ '-' := by simpa using h
    simp [split, hc]

theorem split_stop {u v w : List Char} {x : Char} (h : split (u ++ x :: v) = (u, x :: v)) :
    split (u ++ x :: w) = (u, x :: w) := by
  by_cases hm : (u ++ x :: v).head? = some '-'
  · cases u with
    | nil =>
      have hx : x = '-' := by simpa using hm
      subst hx
      simp [split] at h
    | cons c u =>
      have hc : c = '-' := by simpa using hm
      subst hc
      simp only [List.cons_append, split] at h ⊢
      have hu : splitDigits false (u ++ x :: v) = (u, x :: v) := by
        simp only [Prod.mk.injEq, List.cons.injEq, true_and] at h
        exact Prod.ext h.1 h.2
      rw [splitDigits_stop hu]
  · have hw : (u ++ x :: w).head? ≠ some '-' := by
      cases u <;> simpa using hm
    rw [split_of_head_ne hm] at h
    rw [split_of_head_ne hw]
    exact splitDigits_stop h

end Numeral

namespace Reader

variable {α β : Type}

theorem ext_run {r r' : Reader α} (h : ∀ c, r.run c = r'.run c) : r = r' := by
  cases r
  cases r'
  congr
  exact funext h

def optional (f : Char → Option α) (default : α) : Reader α := do
  match (← peek).bind f with
  | some a =>
    skip 1
    return a
  | none => return default

theorem paintMode_eq (mode : PaintMode) : paintMode mode = optional PaintMode.ofLetter? mode := by
  apply ext_run
  intro c
  simp only [paintMode, optional, run_bind, peek, look]
  cases c.peek.bind PaintMode.ofLetter? <;> rfl

theorem eat_eq (x : Char) : eat x = optional (fun c => if c = x then some true else none) false := by
  apply ext_run
  intro c
  cases hr : c.rest with
  | nil => simp [eat, optional, run_bind, peek, look, Cursor.peek, hr]
  | cons y t =>
    by_cases hy : y = x <;> simp [eat, optional, run_bind, peek, look, Cursor.peek, hr, hy]

theorem run_take (n : Nat) (c : Cursor) :
    (take n).run c = (.ok (c.rest.take n), c.past (c.rest.take n) (c.rest.drop n)) := rfl

theorem run_skip (n : Nat) (c : Cursor) :
    (skip n).run c = (.ok (), c.past (c.rest.take n) (c.rest.drop n)) := rfl

theorem run_next (c : Cursor) :
    next.run c = (.ok c.rest.head?, c.past (c.rest.take 1) (c.rest.drop 1)) := by
  cases hr : c.rest <;> simp [next, run_bind, run_take, hr]

theorem run_number_cons {c : Cursor} {u v : List Char} {x : Char}
    (h : Numeral.split c.rest = (u, x :: v)) :
    number.run c =
      (if x = ',' ∨ x = ';' then .ok (Numeral.value u)
        else .error (.invalidNumber (c.offset + byteLength u) x), c.past (u ++ [x]) v) := by
  by_cases hx : x = ',' ∨ x = ';'
  · simp [number, run_bind, consume, position, look, run_next, h, hx, Cursor.past_past]
  · simp [number, run_bind, consume, position, look, run_next, h, hx, Cursor.past_past, fail]

theorem run_number_nil {c : Cursor} {u : List Char} (h : Numeral.split c.rest = (u, [])) :
    number.run c = (.error (.unexpectedEnd (c.offset + byteLength u)), c.past u []) := by
  simp [number, run_bind, consume, position, look, run_next, h, Cursor.past_past, fail]

theorem run_skipPast_cons {c : Cursor} {u v : List Char} {x : Char} (hu : x ∉ u)
    (h : c.rest = u ++ x :: v) : (skipPast x).run c = (.ok (), c.past (u ++ [x]) v) := by
  have hall : ∀ y ∈ u, (y != x) = true := by
    intro y hy
    rw [bne_iff_ne]
    intro he
    exact hu (he ▸ hy)
  simp [skipPast, run_bind, consume, run_skip, Cursor.past_past, h, List.takeWhile_append_of_pos hall,
    List.dropWhile_append_of_pos hall]

theorem run_skipPast_nil {c : Cursor} {x : Char} (h : x ∉ c.rest) :
    (skipPast x).run c = (.ok (), c.past c.rest []) := by
  have hall : ∀ y ∈ c.rest, (y != x) = true := by
    intro y hy
    rw [bne_iff_ne]
    intro he
    exact h (he ▸ hy)
  have htake : (c.rest ++ []).takeWhile (· != x) = c.rest := by
    rw [List.takeWhile_append_of_pos hall, List.takeWhile_nil, List.append_nil]
  have hdrop : (c.rest ++ []).dropWhile (· != x) = [] := List.dropWhile_append_of_pos hall
  rw [List.append_nil] at htake hdrop
  simp [skipPast, run_bind, consume, run_skip, Cursor.past_past, htake, hdrop]

end Reader

end BandCanvas
