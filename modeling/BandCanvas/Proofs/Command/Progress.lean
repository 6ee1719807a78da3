import BandCanvas.Proofs.Command.Composition
import BandCanvas.Proofs.Command.Operand

namespace BandCanvas

/-- What an error tells about the text between the place where its reader started and the place where it
stopped. -/
def DecodeError.Tells (c d : Cursor) : DecodeError → Prop
  | unexpectedEnd o => o = d.offset ∧ d.rest = []
  | invalidNumber o x =>
    ∃ s, c.rest = s ++ x :: d.rest ∧ o = c.offset + byteLength s ∧ d.offset = o + x.utf8Size
  | invalidLength .. | invalidColor _ => True

theorem DecodeError.Tells.after {c c' d : Cursor} {e : DecodeError} (h : c.Follows c')
    (he : e.Tells c' d) : e.Tells c d := by
  cases e with
  | unexpectedEnd o => exact he
  | invalidNumber o x =>
    obtain ⟨s, hs, hc⟩ := h
    obtain ⟨t, ht, ho, hd⟩ := he
    refine ⟨s ++ t, by rw [hs, ht, List.append_assoc], ?_, hd⟩
    rw [ho, hc, Cursor.past_offset, byteLength_append, Nat.add_assoc]
  | invalidLength | invalidColor => trivial

namespace Reader

variable {α β : Type}

/-- An error of a reader that went from one cursor to another. -/
structure Reported (c d : Cursor) (e : DecodeError) : Prop where
  behind : c.offset ≤ e.offset
  passed : e.offset ≤ d.offset
  tells : e.Tells c d

theorem Reported.after {c c' d : Cursor} {e : DecodeError} (h : c.Follows c')
    (he : Reported c' d e) : Reported c d e :=
  ⟨Nat.le_trans h.offset_le he.behind, he.passed, he.tells.after h⟩

/-- Every error of the reader is reported where it was met. -/
def Reports (r : Reader α) : Prop :=
  ∀ (c d : Cursor) (e : DecodeError), r.run c = (.error e, d) → Reported c d e

theorem follows_of_run {r : Reader α} {c d : Cursor} {a : Except DecodeError α}
    (h : r.run c = (a, d)) : c.Follows d := by
  have hfollows := r.follows c
  rw [h] at hfollows
  exact hfollows

theorem Reports.bind {r : Reader α} {f : α → Reader β} (h : Reports r) (hf : ∀ a, Reports (f a)) :
    Reports (r >>= f) := by
  intro c d e hrun
  rw [run_bind] at hrun
  split at hrun
  next a c' hr => exact (hf a c' d e hrun).after (follows_of_run hr)
  next e' c' hr =>
    cases hrun
    exact h c d e hr

theorem reported_end {c d : Cursor} {e : DecodeError} (hc : c.rest = [])
    (h : (position >>= fun o => fail (.unexpectedEnd o) : Reader α).run c = (.error e, d)) :
    Reported c d e := by
  cases h
  exact ⟨Nat.le_refl _, Nat.le_refl _, rfl, hc⟩

theorem reports_letter {f : Option Char → Reader α}
    (hnone : f none = position >>= fun o => fail (.unexpectedEnd o))
    (hsome : ∀ x, Reports (f (some x))) : Reports (next >>= f) := by
  intro c d e hrun
  have hfollows : c.Follows (c.past (c.rest.take 1) (c.rest.drop 1)) :=
    Cursor.follows_past (List.take_append_drop 1 c.rest).symm
  rw [run_bind, run_next] at hrun
  dsimp only at hrun
  cases hc : c.rest.head? with
  | some x =>
    rw [hc] at hrun
    exact (hsome x _ d e hrun).after hfollows
  | none =>
    rw [hc, hnone] at hrun
    have hnil : c.rest.drop 1 = [] := by rw [List.head?_eq_none_iff.1 hc, List.drop_nil]
    exact (reported_end hnil hrun).after hfollows

theorem reports_number : Reports number := by
  intro c d e hrun
  cases hn : Numeral.split c.rest with
  | mk u v =>
  cases v with
  | nil =>
    rw [run_number_nil hn] at hrun
    cases hrun
    exact ⟨Nat.le_add_right .., Nat.le_refl _, rfl, rfl⟩
  | cons x v =>
    have hrest : u ++ x :: v = c.rest := by simpa only [hn] using Numeral.split_append c.rest
    rw [run_number_cons hn] at hrun
    split at hrun
    · cases hrun
    · cases hrun
      have hd : (c.past (u ++ [x]) v).offset = c.offset + byteLength u + x.utf8Size := by
        simp only [Cursor.past_offset, byteLength_append, byteLength_cons, byteLength_nil]
        omega
      refine ⟨Nat.le_add_right .., ?_, u, hrest.symm, rfl, hd⟩
      rw [hd]
      exact Nat.le_add_right ..

theorem reports_chars (n : Nat) : Reports (chars n) := by
  intro c d e hrun
  rw [chars, run_bind, run_take] at hrun
  dsimp only at hrun
  split at hrun
  next hshort =>
    have hnil : c.rest.drop n = [] := by
      rw [List.length_take] at hshort
      exact List.drop_eq_nil_of_le (by omega)
    exact (reported_end hnil hrun).after (Cursor.follows_past (List.take_append_drop n c.rest).symm)
  next => cases hrun

theorem reports_payload : Reports payload := by
  intro c d e hrun
  have hpayload : payload.run c = (number >>= fun n =>
      if n ≥ 0 && Binary64.isIntegral n then
        chars (Binary64.toNat64 n) >>= fun s => pure (String.ofList s)
      else fail (.invalidLength c.offset n)).run c := rfl
  rw [hpayload, run_bind] at hrun
  split at hrun
  next n c' hn =>
    have hfollows := follows_of_run hn
    split at hrun
    next =>
      have hchars : Reports (chars (Binary64.toNat64 n) >>= fun s => pure (String.ofList s)) :=
        (reports_chars _).bind fun s c d e h => by cases h
      exact (hchars c' d e hrun).after hfollows
    next =>
      cases hrun
      exact ⟨Nat.le_refl _, hfollows.offset_le, trivial⟩
  next e' c' hn =>
    cases hrun
    exact reports_number c d e hn

theorem reports_color : Reports color := by
  intro c d e hrun
  obtain ⟨k, hcolor, hk⟩ : ∃ k : List Char → Reader Color, color.run c = (chars 6 >>= k).run c ∧
      ∀ s, k s = fail (.invalidColor c.offset) ∨ ∃ color, k s = skip 1 >>= fun _ => pure color := by
    refine ⟨_, rfl, fun s => ?_⟩
    cases Color.ofDigits? s with
    | none => exact .inl rfl
    | some color => exact .inr ⟨color, rfl⟩
  rw [hcolor, run_bind] at hrun
  split at hrun
  next s c' hs =>
    rcases hk s with hfail | ⟨color, hpure⟩
    · rw [hfail] at hrun
      cases hrun
      exact ⟨Nat.le_refl _, (follows_of_run hs).offset_le, trivial⟩
    · rw [hpure] at hrun
      cases hrun
  next e' c' hs =>
    cases hrun
    exact reports_chars 6 c d e hs

theorem Composed.reports {r : Reader α} (h : Composed r) : Reports r := by
  induction h with
  | pure | look | consume =>
    intro c d e hrun
    cases hrun
  | bind _ _ ih ihf => exact ih.bind ihf
  | number => exact reports_number
  | payload => exact reports_payload
  | color => exact reports_color
  | letter hnone _ ih => exact reports_letter hnone ih

end Reader

namespace Cursor

variable {text : List Char} {c d : Cursor} {r : Except DecodeError Command}

/-- What a step from `b` has done: it has gone forward, and an error is reported behind the first byte. -/
structure Advances (text : List Char) (b : Cursor) (r : Except DecodeError Command) (d : Cursor) :
    Prop where
  forward : b.offset < d.offset
  place : ∃ s, text = s ++ d.rest ∧ d.offset = byteLength s
  inside : d.offset ≤ byteLength text
  reported : ∀ e, r = .error e → b.offset < e.offset ∧ e.offset ≤ d.offset
  ended : ∀ o, r = .error (.unexpectedEnd o) → o = byteLength text ∧ d.offset = byteLength text
  offender : ∀ o x, r = .error (.invalidNumber o x) →
    ∃ s t, text = s ++ x :: t ∧ o = byteLength s ∧ d.offset = o + x.utf8Size

theorem step_advances (hc : c.In text) (h : c.step = some (r, d)) : Advances text c r d := by
  have hd : d.In text := hc.follows (step_follows h)
  have hsum := hd.offset_add
  unfold step at h
  split at h
  next => cases h
  next code rest hrest =>
    have hrun := Option.some.inj h
    have hcode := code.utf8Size_pos
    have hletter : c.Follows (c.past [code] rest) := follows_past (s := [code]) hrest
    have hoffset : (c.past [code] rest).offset = c.offset + code.utf8Size := by
      rw [past_offset, byteLength_cons, byteLength_nil, Nat.add_zero]
    have hfollows := (Reader.follows_of_run hrun).offset_le
    have hreported : ∀ e, r = .error e → Reader.Reported (c.past [code] rest) d e := by
      rintro e rfl
      exact (Reader.Composed.command code).reports _ d e hrun
    constructor
    case forward => omega
    case place => exact hd.text_eq
    case inside => omega
    case reported =>
      intro e he
      have hbehind := (hreported e he).behind
      exact ⟨by omega, (hreported e he).passed⟩
    case ended =>
      intro o he
      obtain ⟨ho, hnil⟩ := (hreported _ he).tells
      have hend := hd.rest_eq_nil_iff.1 hnil
      exact ⟨ho.trans hend, hend⟩
    case offender =>
      intro o x he
      obtain ⟨s, hs, ho, hpast⟩ := (hreported _ he).tells.after hletter
      obtain ⟨u, hu, hplace⟩ := hc.text_eq
      refine ⟨u ++ s, d.rest, by rw [hu, hs, List.append_assoc], ?_, hpast⟩
      rw [ho, hplace, byteLength_append]

theorem step_eq_none_iff : c.step = none ↔ c.rest = [] := by
  unfold step
  split
  next hnil => exact ⟨fun _ => hnil, fun _ => rfl⟩
  next hrest => exact ⟨nofun, fun hnil => nomatch hrest.symm.trans hnil⟩

/-- Where decoding stands after some steps. -/
def standing (c : Cursor) (xs : List (Except DecodeError Command × Cursor)) : Cursor :=
  xs.getLast?.elim c Prod.snd

theorem standing_cons (c : Cursor) (x : Except DecodeError Command × Cursor)
    (xs : List (Except DecodeError Command × Cursor)) : c.standing (x :: xs) = x.2.standing xs := by
  rw [standing, standing, List.getLast?_cons]
  cases xs.getLast? <;> rfl

/-- Decoding comes to the end of the text, and each step takes a character at least. -/
theorem steps_end (c : Cursor) :
    c.Follows (c.standing c.steps) ∧ (c.standing c.steps).rest = [] ∧
      c.steps.length ≤ c.rest.length := by
  induction hn : c.rest.length using Nat.strongRecOn generalizing c with
  | ind n ih =>
    cases hc : c.step with
    | none =>
      rw [steps_of_none hc]
      exact ⟨.refl c, step_eq_none_iff.1 hc, Nat.zero_le n⟩
    | some x =>
      obtain ⟨r, d⟩ := x
      have hlt := step_length_lt hc
      obtain ⟨hfollows, hend, hlength⟩ := ih d.rest.length (hn ▸ hlt) d rfl
      rw [steps_of_some hc, standing_cons, List.length_cons]
      exact ⟨(step_follows hc).trans hfollows, hend, by omega⟩

/-- Every step is made where the steps before it have led, and those after it start where it leads. -/
theorem steps_split {pre post : List (Except DecodeError Command × Cursor)}
    (h : c.steps = pre ++ (r, d) :: post) :
    c.Follows (c.standing pre) ∧ (c.standing pre).step = some (r, d) ∧ d.steps = post := by
  induction pre generalizing c with
  | nil =>
    cases hc : c.step with
    | none =>
      rw [steps_of_none hc] at h
      cases h
    | some x =>
      rw [steps_of_some hc] at h
      obtain ⟨hx, hpost⟩ := List.cons.inj h
      cases hx
      exact ⟨.refl c, hc, hpost⟩
  | cons y pre ih =>
    cases hc : c.step with
    | none =>
      rw [steps_of_none hc] at h
      cases h
    | some x =>
      rw [steps_of_some hc] at h
      obtain ⟨hx, htail⟩ := List.cons.inj h
      cases hx
      obtain ⟨hfollows, hrest⟩ := ih htail
      rw [standing_cons]
      exact ⟨(step_follows hc).trans hfollows, hrest⟩

/-- Decoding goes forward to a place between two characters with each step, and tells where it failed. -/
theorem decoding_advances (src : String) (start : Nat) :
    let c := atOffset src start
    (c.offset < byteLength src.toList → ∃ r d, c.step = some (r, d) ∧ Advances src.toList c r d) ∧
    (∀ pre r d post, c.steps = pre ++ (r, d) :: post →
      (c.standing pre).step = some (r, d) ∧ Advances src.toList (c.standing pre) r d ∧
      ∀ o, r = .error (.unexpectedEnd o) → post = []) ∧
    (c.standing c.steps).offset = byteLength src.toList ∧
    c.steps.length ≤ c.rest.length := by
  intro c
  have hc : c.In src.toList := atOffset_in src start
  obtain ⟨hlast, hend, hlength⟩ := c.steps_end
  refine ⟨?_, ?_, ?_, hlength⟩
  · intro hbefore
    cases hstep : c.step with
    | none =>
      have hsize := hc.rest_eq_nil_iff.1 (step_eq_none_iff.1 hstep)
      exact absurd hsize (Nat.ne_of_lt hbefore)
    | some x => exact ⟨x.1, x.2, rfl, step_advances hc hstep⟩
  · intro pre r d post hsteps
    obtain ⟨hfollows, hstep, hpost⟩ := steps_split hsteps
    have hadvances := step_advances (hc.follows hfollows) hstep
    refine ⟨hstep, hadvances, fun o ho => ?_⟩
    have hd : d.In src.toList := (hc.follows hfollows).follows (step_follows hstep)
    have hnil := hd.rest_eq_nil_iff.2 (hadvances.ended o ho).2
    rw [← hpost, steps_of_none (step_eq_none_iff.2 hnil)]
  · exact (hc.follows hlast).rest_eq_nil_iff.1 hend

theorem decoding_advances_malformed :
    let text := "L1,2,3é;B9,Bo".toList
    let c := atOffset "L1,2,3é;B9,Bo" 0
    c.steps = [(.error (.invalidNumber 6 'é'), ⟨8, some 'é', ";B9,Bo".toList⟩),
      (.ok .separator, ⟨9, some ';', "B9,Bo".toList⟩),
      (.error (.unexpectedEnd 14), ⟨14, some 'o', []⟩)] ∧
    c.offset < byteLength text ∧ (∃ r d, c.step = some (r, d) ∧ Advances text c r d) ∧
    Advances text c (.error (.invalidNumber 6 'é')) ⟨8, some 'é', ";B9,Bo".toList⟩ := by
  intro text c
  have hline : c.step = some (.error (.invalidNumber 6 'é'), ⟨8, some 'é', ";B9,Bo".toList⟩) := rfl
  have hseparator : (⟨8, some 'é', ";B9,Bo".toList⟩ : Cursor).step =
      some (.ok .separator, ⟨9, some ';', "B9,Bo".toList⟩) := rfl
  have hband : (⟨9, some ';', "B9,Bo".toList⟩ : Cursor).step =
      some (.error (.unexpectedEnd 14), ⟨14, some 'o', []⟩) := rfl
  have hend : (⟨14, some 'o', []⟩ : Cursor).step = none := rfl
  have hsteps := steps_of_some hline
  rw [steps_of_some hseparator, steps_of_some hband, steps_of_none hend] at hsteps
  obtain ⟨hnext, hadvances, -⟩ := decoding_advances "L1,2,3é;B9,Bo" 0
  have hbefore : c.offset < byteLength text := by decide
  exact ⟨hsteps, hbefore, hnext hbefore, (hadvances [] _ _ _ hsteps).2.1⟩

end Cursor

end BandCanvas
