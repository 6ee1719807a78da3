import BandCanvas.Proofs.Command.Locality

namespace BandCanvas

namespace Reader

theorem Local.bandHeader (paint : Bool) : Local (bandHeader paint) :=
  Local.string.bind fun _ => Local.number.bind fun _ => Local.next.bind fun _ =>
    (Local.skip 1).bind fun _ => Local.number.bind fun _ => Local.number.bind fun _ =>
      Local.number.bind fun _ => .pure _

theorem Local.image : Local image :=
  Local.number.bind fun _ => Local.string.bind fun _ => Local.number.bind fun _ =>
    Local.number.bind fun _ => Local.number.bind fun _ => Local.number.bind fun _ =>
      Local.string.bind fun _ => Local.string.bind fun _ => Local.string.bind fun _ => .pure _

theorem Local.text : Local text := by
  refine .paintMode (fun m => Local.number.bind fun x => Local.number.bind fun y =>
    Local.payload.bind fun s => .eat (fun b => ?_) (Consumes.skip_one.bind _))
    (Consumes.number.bind _)
  cases b with
  | false => exact (Local.skip 1).bind fun _ => .pure _
  | true => exact Local.number.bind fun _ => .pure _

theorem Local.fontMetrics : Local fontMetrics :=
  Local.number.bind fun _ => Local.number.bind fun _ => Local.number.bind fun _ =>
    Local.number.bind fun _ => Local.number.bind fun _ => Local.number.bind fun _ =>
      Local.number.bind fun _ => Local.number.bind fun _ => Local.number.bind fun _ =>
        Local.number.bind fun _ => .pure _

theorem Local.font : Local font := by
  refine .eat (fun b => ?_) (Consumes.number.bind _)
  cases b with
  | false => exact Local.number.bind fun _ => Local.number.bind fun _ => .pure _
  | true => exact Local.fontMetrics.bind fun _ => .pure _

theorem Local.transform : Local transform := by
  refine Local.next.bind fun o => ?_
  split
  · exact Local.number.bind fun _ => Local.number.bind fun _ => Local.number.bind fun _ => .pure _
  · exact (Local.skip 1).bind fun _ => .pure _
  · exact .pure _

theorem Local.page : Local page := by
  refine Local.next.bind fun o => ?_
  split
  · exact Local.number.bind fun _ => Local.number.bind fun _ => .pure _
  · exact Local.number.bind fun _ => Local.number.bind fun _ => .pure _
  · exact .pure _

theorem Local.optionalSubDocument : Local optionalSubDocument := by
  refine .eat (fun b => ?_) (Consumes.skip_one.bind _)
  cases b with
  | false => exact (Local.skip 1).bind fun _ => .pure _
  | true =>
    exact Local.string.bind fun _ => Local.payload.bind fun _ => (Local.skip 1).bind fun _ => .pure _

theorem Local.optionalText : Local optionalText := by
  refine .eat (fun b => ?_) (Consumes.skip_one.bind _)
  cases b with
  | false => exact (Local.skip 1).bind fun _ => .pure _
  | true => exact Local.payload.bind fun _ => (Local.skip 1).bind fun _ => .pure _

theorem Local.combo : Local combo := by
  refine Local.number.bind fun version => ?_
  split
  · exact Local.string.bind fun _ => .pure _
  · exact Local.number.bind fun _ => Local.string.bind fun _ => Local.string.bind fun _ =>
      Local.string.bind fun _ => Local.payload.bind fun _ => Local.optionalText.bind fun _ => .pure _

theorem Local.failAtEnd :
    Local (position >>= fun o => fail (.unexpectedEnd o) : Reader α) :=
  fun _ => Moves.position fun _ _ ho => .fail ⟨ho, rfl⟩

theorem Local.editMode : Local editMode := by
  refine Local.next.bind fun o => ?_
  split
  · exact .failAtEnd
  · exact (Local.skip 1).bind fun _ => .pure _
  · exact Local.optionalSubDocument.bind fun _ => .pure _
  · exact Local.optionalSubDocument.bind fun _ => .pure _
  · exact Local.optionalText.bind fun _ => .pure _
  · exact Local.optionalText.bind fun _ => .pure _
  · exact Local.combo.bind fun _ => .pure _
  · exact Local.number.bind fun _ => Local.string.bind fun _ => Local.string.bind fun _ => .pure _
  · exact Local.string.bind fun _ => .pure _
  · exact .pure _

theorem Local.fieldValue : Local fieldValue := by
  refine .eat (fun b => ?_) (Consumes.payload.bind _)
  cases b with
  | false => exact Local.payload.bind fun _ => .pure _
  | true => exact Local.string.bind fun _ => Local.string.bind fun _ => .pure _

theorem Local.editorStart : Local editorStart :=
  Local.number.bind fun _ => Local.number.bind fun _ => Local.number.bind fun _ =>
    Local.number.bind fun _ => Local.fieldValue.bind fun _ => (Local.skip 1).bind fun _ => .pure _

theorem Local.moreTexts : Local moreTexts := by
  refine .peek (fun o => ?_) fun o => ?_
  · split
    · exact (Local.skip 1).bind fun _ => .pure _
    · refine (Local.skip 1).bind fun _ => Local.payload.bind fun _ => .peek (fun o => ?_) fun o => ?_
      · split
        · exact (Local.skip 1).bind fun _ => .pure _
        · exact (Local.skip 1).bind fun _ => Local.string.bind fun _ => .pure _
      · split
        · exact Consumes.skip_one.bind _
        · exact Consumes.skip_one.bind _
  · split
    · exact Consumes.skip_one.bind _
    · exact Consumes.skip_one.bind _

theorem Local.editorUpdate : Local editorUpdate := by
  refine Local.payload.bind fun _ => Local.moreTexts.bind fun _ => .previous fun o => ?_
  split
  · exact .pure _
  · exact Local.string.bind fun _ => .pure _

theorem Local.remainder : Local remainder := by
  intro k c c' s t t' hp ho hs he ht hs'
  have hnil : t = [] := (congrArg Cursor.rest he).symm
  have hsame : c'.rest = c.rest := by rw [hs', hs, hnil, ht hnil]
  refine ⟨hsame.symm, ?_⟩
  show c'.past c'.rest [] = c'.past s t'
  rw [hs', ht hnil, List.append_nil]

theorem Local.binding : Local binding :=
  Local.remainder.bind fun _ => .pure _

theorem Local.editor : Local editor := by
  refine Local.next.bind fun o => ?_
  split
  · exact .failAtEnd
  · exact Local.binding.bind fun _ => .pure _
  · exact Local.editMode.bind fun _ => .pure _
  · exact Local.rect.bind fun _ => .pure _
  · exact Local.editorStart.bind fun _ => .pure _
  · exact Local.editorUpdate.bind fun _ => .pure _
  · exact (Local.skip 1).bind fun _ => .pure _
  · exact (Local.skip 1).bind fun _ => Local.rect.bind fun _ => .pure _
  · exact Local.rect.bind fun _ => Local.string.bind fun _ => .pure _
  · exact .pure _

theorem Local.skipPast (x : Char) : Local (skipPast x) := by
  intro k c c' s t t' hp ho hs he ht hs'
  by_cases hx : x ∈ c.rest
  · obtain ⟨u, v, hr, hu⟩ := List.eq_append_cons_of_mem hx
    rw [run_skipPast_cons hu hr] at he ⊢
    have hv : v = t := congrArg Cursor.rest he
    have hsu : s = u ++ [x] := by
      apply (List.append_left_inj t).1
      rw [← hs, hr, hv, List.append_assoc]
      rfl
    have hr' : c'.rest = u ++ x :: t' := by
      rw [hs', hsu, List.append_assoc]
      rfl
    rw [run_skipPast_cons hu hr', hsu]
    exact ⟨rfl, rfl⟩
  · rw [run_skipPast_nil hx] at he ⊢
    have hnil : t = [] := (congrArg Cursor.rest he).symm
    have hsame : c'.rest = s := by rw [hs', ht hnil, List.append_nil]
    have hx' : x ∉ c'.rest := by
      rw [hsame, ← List.append_nil s, ← hnil, ← hs]
      exact hx
    rw [run_skipPast_nil hx', ht hnil, hsame]
    exact ⟨rfl, rfl⟩

theorem Local.command (code : Char) : Local (command code) := by
  unfold Reader.command
  split
  · refine .eat (fun b => (Local.skip 1).bind fun _ => .pure _) (Consumes.skip_one.bind _)
  · exact (Local.bandHeader true).bind fun _ => .pure _
  · exact (Local.bandHeader false).bind fun _ => .pure _
  · exact .pure _
  · exact Local.number.bind fun _ => Local.number.bind fun _ => Local.number.bind fun _ =>
      Local.number.bind fun _ => .pure _
  · refine .eat (fun b => ?_) ?_
    · cases b with
      | false =>
        exact .paintMode (fun _ => Local.rect.bind fun _ => .pure _) (Consumes.rect.bind _)
      | true => exact Local.rect.bind fun _ => .pure _
    · exact .paintMode (Consumes.rect.bind _)
  · exact .paintMode (fun _ => Local.number.bind fun _ => Local.rect.bind fun _ => .pure _)
      (Consumes.number.bind _)
  · exact .text
  · exact Local.color.bind fun _ => .pure _
  · exact Local.color.bind fun _ => .pure _
  · exact Local.color.bind fun _ => .pure _
  · exact Local.number.bind fun _ => .pure _
  · exact .paintMode (fun _ => Local.rect.bind fun _ => .pure _) (Consumes.rect.bind _)
  · exact Local.image.bind fun _ => .pure _
  · exact Local.string.bind fun _ => .pure _
  · exact .font
  · exact Local.number.bind fun _ => Local.number.bind fun _ => .pure _
  · exact .transform
  · exact .page
  · exact Local.editor.bind fun _ => .pure _
  · exact (Local.skipPast ';').bind fun _ => .pure _
  · exact (Local.skipPast ';').bind fun _ => .pure _
  · exact .pure _
  · exact .pure _

end Reader

def DecodeError.shift (n : Nat) (e : DecodeError) : DecodeError :=
  e.withOffset (n + e.offset)

theorem MovedBy.eq_mapError {α : Type} {n : Nat} {r r' : Except DecodeError α} (h : MovedBy n r r') :
    r' = r.mapError (DecodeError.shift n) := by
  cases r with
  | error e =>
    cases r' with
    | error e' =>
      obtain ⟨ho, he⟩ := h
      have hn : e'.offset = n + e.offset := by omega
      rw [hn] at he
      rw [he]
      rfl
    | ok b => exact h.elim
  | ok a =>
    cases r' with
    | error e' => exact h.elim
    | ok b =>
      cases (h : a = b)
      rfl

namespace Cursor

/-- A step at `c` that consumes `s` is made wherever `s` stands, but at the end of a text only at the end. -/
theorem step_local {c c' d : Cursor} {r : Except DecodeError Command} {s t' : List Char}
    (h : c.step = some (r, d)) (hs : c.rest = s ++ d.rest) (ht : d.rest = [] → t' = [])
    (hs' : c'.rest = s ++ t') :
    s ≠ [] ∧ d = c.past s d.rest ∧
      ∃ r', c'.step = some (r', c'.past s t') ∧ MovedBy (c'.offset - c.offset) r r' := by
  unfold step at h
  split at h
  · cases h
  next code rest hr =>
    have hrun := Option.some.inj h
    obtain ⟨u, hu, hd⟩ := (Reader.command code).follows (c.past [code] rest)
    rw [hrun] at hu hd
    have hsu : s = code :: u := by
      apply (List.append_left_inj d.rest).1
      rw [← hs, hr]
      exact congrArg (code :: ·) hu
    have hr' : c'.rest = code :: (u ++ t') := by rw [hs', hsu]; rfl
    have hmove : MovedBy (c'.offset - c.offset) ((Reader.command code).run (c.past [code] rest)).1
          ((Reader.command code).run (c'.past [code] (u ++ t'))).1 ∧
        ((Reader.command code).run (c'.past [code] (u ++ t'))).2 =
          (c'.past [code] (u ++ t')).past u t' :=
      Reader.Local.command code _ rfl (by simp only [past_offset]; omega) hu
        (by rw [hrun]; exact hd) ht rfl
    rw [hrun] at hmove
    refine ⟨by rw [hsu]; exact List.cons_ne_nil code u, ?_, _, ?_, hmove.1⟩
    · simp only at hd
      rw [hd, past_past, hsu]
      rfl
    · rw [step, hr']
      simp only [Option.some.injEq]
      refine Prod.ext rfl ?_
      rw [hmove.2, past_past, hsu]
      rfl

/-- Decoding goes by the text that is left: the same text `n` bytes further on gives the same steps. -/
theorem steps_shift {c c' : Cursor} {n : Nat} (hr : c.rest = c'.rest) (ho : c'.offset = n + c.offset) :
    c'.steps = c.steps.map fun x =>
      (x.1.mapError (DecodeError.shift n), { x.2 with offset := n + x.2.offset }) := by
  induction hn : c.rest.length using Nat.strongRecOn generalizing c c' with
  | ind m ih =>
  cases hc : c.step with
  | none =>
    have hc' : c'.step = none := by
      unfold step at hc ⊢
      rw [← hr]
      split at hc
      · rfl
      · cases hc
    rw [steps_of_none hc, steps_of_none hc']
    rfl
  | some x =>
    obtain ⟨r, d⟩ := x
    obtain ⟨s, hs, _⟩ := step_follows hc
    obtain ⟨hne, hd, r', hc', hmove⟩ := step_local hc hs id (hr ▸ hs)
    have hoff : (c'.offset : Int) - c.offset = n := by omega
    rw [hoff] at hmove
    have hlast : s.getLast?.or c'.previous = s.getLast?.or c.previous := by
      cases h : s.getLast? with
      | none => exact absurd (List.getLast?_eq_none_iff.1 h) hne
      | some x => rfl
    have hd' : c'.past s d.rest = { d with offset := n + d.offset } := by
      rw [hd]
      simp only [past, ho, hlast, Nat.add_assoc]
    have hlt := step_length_lt hc
    rw [steps_of_some hc, steps_of_some hc', hmove.eq_mapError, List.map_cons, hd']
    have hrest : ({ d with offset := n + d.offset } : Cursor).steps = d.steps.map _ :=
      ih d.rest.length (hn ▸ hlt) rfl rfl rfl
    rw [hrest]

/-- A step that ends before the end of its stream is made the same wherever its text stands. -/
theorem step_selfDelimiting :
    (∀ (src src' : String) (p p' : Nat) (r : Except DecodeError Command) (d : Cursor) (s : List Char),
      (atOffset src p).step = some (r, d) → d.offset < byteLength src.toList →
      (atOffset src p).rest = s ++ d.rest → s <+: (atOffset src' p').rest →
      ∃ r' d', (atOffset src' p').step = some (r', d') ∧
        MovedBy ((atOffset src' p').offset - (atOffset src p).offset) r r' ∧
        (d'.offset : Int) = (atOffset src' p').offset + (d.offset - (atOffset src p).offset) ∧
        (atOffset src' p').rest = s ++ d'.rest) ∧
    ∀ (src : String) (p : Nat),
      (atOffset src p).steps.map (fun x => (x.1, x.2.offset, x.2.terminated)) =
        (start (atOffset src p).rest).steps.map fun x =>
          (x.1.mapError (DecodeError.shift (atOffset src p).offset), (atOffset src p).offset + x.2.offset,
            x.2.terminated) := by
  refine ⟨?_, ?_⟩
  · intro src src' p p' r d s hstep hend hs hpre
    obtain ⟨t', hs'⟩ := hpre
    have hlen := ((atOffset_in src p).follows (step_follows hstep)).length_eq
    have hne : d.rest ≠ [] := by
      intro hnil
      rw [length, hnil] at hlen
      simp [length, start] at hlen
      omega
    obtain ⟨_, hd, r', hstep', hmove⟩ := step_local hstep hs (fun h => absurd h hne) hs'.symm
    refine ⟨r', _, hstep', hmove, ?_, hs'.symm⟩
    rw [hd, past_offset, past_offset]
    omega
  · intro src p
    have hzero : (atOffset src p).offset =
        (atOffset src p).offset + (start (atOffset src p).rest).offset := rfl
    have hsteps : (atOffset src p).steps = (start (atOffset src p).rest).steps.map _ :=
      steps_shift rfl hzero
    rw [hsteps, List.map_map]
    rfl

theorem step_selfDelimiting_malformed :
    (atOffset "L1,x2;" 0).step =
        some (.error (.invalidNumber 3 'x'), ⟨4, some 'x', ['2', ';']⟩) ∧
      ∃ r' d', (atOffset "é;L1,x9" 3).step = some (r', d') ∧
        MovedBy 3 (.error (.invalidNumber 3 'x') : Except DecodeError Command) r' ∧
        (d'.offset : Int) = 7 ∧ (atOffset "é;L1,x9" 3).rest = "L1,x".toList ++ d'.rest :=
  ⟨rfl, step_selfDelimiting.1 "L1,x2;" "é;L1,x9" 0 3 (.error (.invalidNumber 3 'x'))
    ⟨4, some 'x', ['2', ';']⟩ "L1,x".toList rfl (by decide) rfl ⟨['9'], rfl⟩⟩

end Cursor

end BandCanvas
