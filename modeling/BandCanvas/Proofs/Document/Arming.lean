import BandCanvas.Proofs.Document.PictureHistory

namespace BandCanvas

def Command.isUpdate : Command → Bool
  | .update => true
  | _ => false

inductive TimerMark where
  | armed (now : Nat)
  | cleared
  deriving DecidableEq

namespace TimerMark

/-- The latest arming, if the timer has not been taken back since. -/
def latestArming (ms : List TimerMark) : Option Nat :=
  match ms.getLast? with
  | some (.armed now) => some now
  | _ => none

end TimerMark

namespace RedrawTimer

variable {t : RedrawTimer} {now : Nat}

def take (t : RedrawTimer) : TimerMark → RedrawTimer
  | .armed now => t.arm now
  | .cleared => t.cancel

theorem take_take (t : RedrawTimer) (m m' : TimerMark) : (t.take m).take m' = t.take m' := by
  cases m <;> cases m' <;> rfl

theorem foldl_take (t : RedrawTimer) (ms : List TimerMark) :
    ms.foldl take t = ms.getLast?.elim t t.take := by
  induction ms generalizing t with
  | nil => rfl
  | cons m ms ih =>
    rw [List.foldl_cons, ih]
    cases ms with
    | nil => rfl
    | cons m' ms =>
      rw [List.getLast?_cons_cons]
      cases hlast : (m' :: ms).getLast? with
      | none => simp at hlast
      | some last => exact t.take_take m last

theorem arm_isArmed (now : Nat) (t : RedrawTimer) : (t.arm now).isArmed = true :=
  rfl

theorem cancel_isArmed (t : RedrawTimer) : t.cancel.isArmed = false :=
  rfl

theorem isDue_iff : t.isDue now = true ↔ ∃ deadline, t.deadline = some deadline ∧ deadline ≤ now := by
  simp [isDue, Option.any_eq_true]

theorem isArmed_of_isDue (h : t.isDue now = true) : t.isArmed = true := by
  obtain ⟨deadline, hdeadline, -⟩ := isDue_iff.1 h
  rw [isArmed, hdeadline]
  rfl

theorem isArmed_eq_false_iff : t.isArmed = false ↔ t.deadline = none := by
  rw [isArmed, Option.isSome_eq_false_iff, Option.isNone_iff_eq_none]

/-- A timer that rested is due when the latest arming has come to its end. -/
theorem isDue_foldl_take (ht : t.deadline = none) (ms : List TimerMark) :
    (ms.foldl take t).isDue now = true ↔
      ∃ latest, TimerMark.latestArming ms = some latest ∧ latest + t.delay ≤ now := by
  rw [isDue_iff, foldl_take, TimerMark.latestArming]
  cases ms.getLast? with
  | none => simp [ht]
  | some m => cases m <;> simp [take, arm, cancel]

end RedrawTimer

theorem Command.endsPass_of_isUpdate {k : Command} (h : k.isUpdate) : k.endsPass := by
  cases k with
  | update => rfl
  | _ => cases h

namespace ImageEntry

theorem after_eq_pending {e : ImageEntry} {load : Option ImageLoad} (h : e.after load = .pending) :
    e = .pending ∧ load = none := by
  cases e with
  | pending =>
    cases load with
    | none => exact ⟨rfl, rfl⟩
    | some l => exact absurd h (ofLoad_ne_pending l.picture)
  | ready | broken => cases h

end ImageEntry

namespace Document

variable {ls : List ImageLoad} {c : ImageCache}

/-- Whether a picture that is waited for can be drawn once loads have come. -/
def arrives (ls : List ImageLoad) (c : ImageCache) : Bool :=
  c.entries.any fun x =>
    (c.get? x.1).any ImageEntry.isPending && ((completeLoads ls c).2.ready? x.1).isSome

theorem arrives_iff : arrives ls c = true ↔
    ∃ path b, c.get? path = some .pending ∧ (completeLoads ls c).2.get? path = some (.ready b) := by
  simp only [arrives, List.any_eq_true, Bool.and_eq_true, Option.any_eq_true]
  constructor
  · rintro ⟨x, -, ⟨e, he, hpending⟩, hready⟩
    obtain ⟨b, hb⟩ := Option.isSome_iff_exists.1 hready
    cases e with
    | pending => exact ⟨x.1, b, he, ImageCache.ready?_eq_some.1 hb⟩
    | ready | broken => cases hpending
  · rintro ⟨path, b, hpending, hready⟩
    have hknown : path ∈ c.entries.map Prod.fst := by
      apply Decidable.byContradiction
      intro hunknown
      rw [ImageCache.get?_eq_none_iff.2 hunknown] at hpending
      cases hpending
    obtain ⟨x, hx, rfl⟩ := List.mem_map.1 hknown
    refine ⟨x, hx, ⟨_, hpending, rfl⟩, ?_⟩
    rw [ImageCache.ready?_eq_some.2 hready]
    rfl

/-- A picture arrives where the first load for a path that is waited for has pixels. -/
theorem arrives_iff_first : arrives ls c = true ↔
    ∃ path l b, c.get? path = some .pending ∧ ImageLoad.first? path ls = some l ∧
      ImageEntry.ofLoad l.picture = .ready b := by
  rw [arrives_iff]
  constructor
  · rintro ⟨path, b, hpending, hready⟩
    rw [completeLoads_get?, hpending, Option.map_some, ImageEntry.pending_after] at hready
    cases hfirst : ImageLoad.first? path ls with
    | none =>
      rw [hfirst] at hready
      cases hready
    | some l =>
      rw [hfirst] at hready
      exact ⟨path, l, b, hpending, hfirst, Option.some.inj hready⟩
  · rintro ⟨path, l, b, hpending, hfirst, hready⟩
    refine ⟨path, b, hpending, ?_⟩
    rw [completeLoads_get?, hpending, Option.map_some, ImageEntry.pending_after, hfirst]
    exact congrArg some hready

theorem completeLoad_fst (l : ImageLoad) (c : ImageCache) : (completeLoad l c).1 = true ↔
    c.get? l.path = some .pending ∧ ∃ b, ImageEntry.ofLoad l.picture = .ready b := by
  rw [completeLoad, ImageCache.complete]
  split
  next hpending =>
    have hsettled := ImageEntry.ofLoad_ne_pending l.picture
    rw [hpending]
    cases hload : ImageEntry.ofLoad l.picture with
    | pending => exact absurd hload hsettled
    | ready b => simp
    | broken => simp
  next hother =>
    refine iff_of_false Bool.false_ne_true ?_
    rintro ⟨hpending, -⟩
    exact hother hpending

theorem completeLoads_fst (ls : List ImageLoad) (c : ImageCache) :
    (completeLoads ls c).1 = arrives ls c := by
  induction ls generalizing c with
  | nil =>
    have hnone : ¬ arrives [] c = true := by
      rw [arrives_iff_first]
      rintro ⟨path, l, b, -, hfirst, -⟩
      cases hfirst
    exact (Bool.eq_false_iff.2 hnone).symm
  | cons l ls ih =>
    rw [Bool.eq_iff_iff, completeLoads, Bool.or_eq_true, completeLoad_fst, ih, arrives_iff_first,
      arrives_iff_first]
    simp only [completeLoad, ImageCache.complete_get?]
    constructor
    -- the picture comes with this load, or the path still waits behind it
    · rintro (⟨hpending, b, hready⟩ | ⟨path, l', b, hlater, hfirst, hready⟩)
      · refine ⟨l.path, l, b, hpending, ?_, hready⟩
        rw [ImageLoad.first?_cons, ImageLoad.first?_singleton, if_pos rfl]
        rfl
      · obtain ⟨e, he, hafter⟩ := Option.map_eq_some_iff.1 hlater
        obtain ⟨rfl, hother⟩ := ImageEntry.after_eq_pending hafter
        refine ⟨path, l', b, he, ?_, hready⟩
        rw [ImageLoad.first?_cons, hother]
        exact hfirst
    · rintro ⟨path, l', b, hpending, hfirst, hready⟩
      rw [ImageLoad.first?_cons] at hfirst
      cases hhead : ImageLoad.first? path [l] with
      | some l₁ =>
        rw [hhead] at hfirst
        obtain ⟨hmem, hpath⟩ := ImageLoad.first?_eq_some hhead
        obtain rfl : l₁ = l := List.mem_singleton.1 hmem
        obtain rfl : l₁ = l' := Option.some.inj hfirst
        rw [← hpath] at hpending
        exact .inl ⟨hpending, b, hready⟩
      | none =>
        rw [hhead] at hfirst
        refine .inr ⟨path, l', b, ?_, hfirst, hready⟩
        rw [hpending, hhead]
        rfl

variable (host : WidgetHost)

theorem perform_timer {k : Command} (hk : k.isUpdate = false) (source : String) (position : Nat)
    (p : LivePass) (d : Document) :
    (d.perform host source position p k).1.document.timer = d.timer := by
  cases k with
  | reset hard =>
    have hmenu : d.hideMenu.document.timer = d.timer := by rw [hideMenu_document]
    cases hard <;> exact hmenu
  | update => cases hk
  | editor e =>
    cases e with
    | prepare box =>
      let o := d.withOverlay (d.overlay.prepare d.ratio box)
      obtain ⟨menuBand, hmenu⟩ := updateMenu_document (box.y + box.height / 2) o.document
      show (o.document.updateMenu (box.y + box.height / 2)).document.timer = d.timer
      rw [hmenu]
      rfl
    | start field =>
      let o := d.withOverlay (d.overlay.start d.ratio field)
      show (adjustScroll host o.document).document.timer = d.timer
      rw [adjustScroll_document]
      rfl
    | _ => rfl
  | _ => rfl

theorem runSteps_timer {xs : List Step} (hxs : ∀ x ∈ xs, Step.finds Command.isUpdate x = false)
    (source : String) (p : LivePass) (d : Document) :
    (runSteps host source xs p d).1.document.timer = d.timer := by
  apply runSteps_invariant (P := fun d' => d'.timer = d.timer) _ p rfl
  intro k c p d' hmem h
  exact (perform_timer host (hxs _ hmem) source c.offset p d').trans h

def liveRepaints (f : Fragment) (d : Document) : Bool :=
  f.decoded.getLast?.any (Step.finds Command.isUpdate) &&
    !(liveTo host f f.decoded.dropLast d).1.document.bands.isEmpty

/-- Nothing in a live stream touches the timer, but that the page may be repainted at its end. -/
theorem live_cases (f : Fragment) (d : Document) :
    ∃ o : Outcome, o.document.timer = d.timer ∧
      d.live host f = if d.liveRepaints host f then o.andThen repaint else o := by
  rw [live_eq_liveTo, liveRepaints]
  rcases List.eq_nil_or_concat f.decoded with hnil | ⟨pre, x, hlast⟩
  · rw [hnil]
    exact ⟨_, rfl, rfl⟩
  rw [List.concat_eq_append] at hlast
  have hpre : ∀ y ∈ pre, Step.finds Command.endsPass y = false := Step.not_finds_of_through hlast
  have hearlier : ∀ y ∈ pre, Step.finds Command.isUpdate y = false := by
    intro y hy
    apply Bool.eq_false_iff.2
    intro hupdate
    have hends := Step.finds_mono (fun _ => Command.endsPass_of_isUpdate) hupdate
    rw [hpre y hy] at hends
    cases hends
  obtain ⟨o, p, hrun⟩ := runSteps_some host hpre f.source LivePass.initial d
  have htimer := runSteps_timer host hearlier f.source LivePass.initial d
  rw [hrun] at htimer
  simp only [hlast, List.getLast?_concat, List.dropLast_concat, liveTo, runSteps_append, hrun,
    Option.any_some]
  -- only the last step can be an update
  obtain ⟨r, c⟩ := x
  cases r with
  | error e =>
    refine ⟨_, ?_, rfl⟩
    exact htimer
  | ok k =>
    cases hk : k.isUpdate with
    | false =>
      have hother : ∀ x ∈ [((.ok k, c) : Step)], Step.finds Command.isUpdate x = false :=
        List.forall_mem_singleton.2 hk
      have hlater := runSteps_timer host hother f.source p o.document
      rw [Step.finds, hk]
      refine ⟨_, ?_, rfl⟩
      exact hlater.trans htimer
    | true =>
      cases k with
      | update =>
        rw [Step.finds, hk]
        simp only [runSteps, perform]
        cases o.document.bands.isEmpty with
        | true =>
          refine ⟨_, ?_, rfl⟩
          exact htimer
        | false =>
          refine ⟨⟨o.document, Effect.calls PaintState.initial.styleCalls ++ o.effects⟩, htimer, ?_⟩
          rw [← List.append_assoc]
          rfl
      | _ => cases hk

theorem live_timer (f : Fragment) (d : Document) :
    (d.live host f).document.timer = if d.liveRepaints host f then d.timer.cancel else d.timer := by
  obtain ⟨o, htimer, hlive⟩ := live_cases host f d
  rw [hlive, ← htimer]
  cases d.liveRepaints host f <;> rfl

end Document

namespace DocumentOperation

variable (host : WidgetHost)

/-- The time at which an operation arms the timer of a document, if it does. -/
def arming (d : Document) : DocumentOperation → Option Nat
  | .tick now ls => if Document.arrives ls d.images then some now else none
  | .fontsLoaded now => some now
  | _ => none

def armed (d : Document) (op : DocumentOperation) : RedrawTimer :=
  (op.arming d).elim d.timer fun now => d.timer.arm now

/-- Whether an operation repaints the page of a document or resets it. -/
def clears (d : Document) : DocumentOperation → Bool
  | .message text =>
    match text.toList with
    | 'D' :: ':' :: _ => d.liveRepaints host ⟨text, 2⟩
    | _ => false
  | .paint commands => d.liveRepaints host ⟨commands, 0⟩
  | .tick now ls => (d.tick now ls).1
  | .repaint | .reset => true
  | _ => false

def marks (d : Document) (op : DocumentOperation) : List TimerMark :=
  (op.arming d).toList.map .armed ++ if op.clears host d then [.cleared] else []

end DocumentOperation

namespace Document

variable (host : WidgetHost)

/-- A tick repaints where the timer is due, once pictures that arrive have armed it. -/
theorem tick_eq (now : Nat) (ls : List ImageLoad) (d : Document) :
    d.tick now ls =
      let timer := (DocumentOperation.tick now ls).armed d
      if timer.isDue now then
        (true, { d with images := (completeLoads ls d.images).2, timer := timer.cancel }.repaint)
      else (false, { d with images := (completeLoads ls d.images).2, timer }.quiet) := by
  have harmed : (if (completeLoads ls d.images).1 then d.timer.arm now else d.timer) =
      (DocumentOperation.tick now ls).armed d := by
    rw [completeLoads_fst, DocumentOperation.armed, DocumentOperation.arming]
    cases arrives ls d.images <;> rfl
  simp only [tick, harmed, RedrawTimer.due]
  cases ((DocumentOperation.tick now ls).armed d).isDue now <;> rfl

theorem tick_fst (now : Nat) (ls : List ImageLoad) (d : Document) :
    (d.tick now ls).1 = ((DocumentOperation.tick now ls).armed d).isDue now := by
  rw [tick_eq]
  simp only
  split
  next hdue => exact hdue.symm
  next hdue => exact (Bool.eq_false_iff.2 hdue).symm

theorem handleMessage_timer (text : String) (d : Document) :
    (d.handleMessage host text).document.timer =
      if (DocumentOperation.message text).clears host d then d.timer.cancel else d.timer := by
  by_cases hstream : ∃ stream, text.toList = 'D' :: ':' :: stream
  · obtain ⟨stream, htext⟩ := hstream
    rw [handleMessage_stream htext, live_timer, DocumentOperation.clears, htext]
    rfl
  · have hclears : (DocumentOperation.message text).clears host d = false := by
      rw [DocumentOperation.clears]
      split
      next stream htext => exact absurd ⟨stream, htext⟩ hstream
      next => rfl
    rw [hclears, handleMessage]
    split
    next stream htext => exact absurd ⟨stream, htext⟩ hstream
    next json htext =>
      cases Notification.parse? (String.ofList json) with
      | none => rfl
      | some n =>
        obtain ⟨paging, effects, hnoted⟩ := exists_noted n d.paging
        rw [Option.elim_some, hnoted d rfl]
        rfl
    next => rfl

theorem operation_timer (op : DocumentOperation) (d : Document) :
    (op.run host d).document.timer = if op.clears host d then (op.armed d).cancel else op.armed d := by
  cases op with
  | message text => exact handleMessage_timer host text d
  | paint commands => exact live_timer host _ d
  | tick now ls =>
    rw [DocumentOperation.run, DocumentOperation.clears, tick_fst, tick_eq]
    simp only
    split <;> rfl
  | pointer y =>
    obtain ⟨menuBand, hmoved⟩ := pointerMoved_document y d
    rw [DocumentOperation.run, hmoved]
    rfl
  | editable b =>
    rw [DocumentOperation.run, setEditable]
    split
    · rfl
    · rw [hideMenu_document]
      rfl
  | reset =>
    rw [DocumentOperation.run, reset_eq]
    rfl
  | repaint | fontsLoaded | zoom | page | background | viewport | paging => rfl

theorem foldl_armed (op : DocumentOperation) (d : Document) :
    ((op.arming d).toList.map TimerMark.armed).foldl RedrawTimer.take d.timer = op.armed d := by
  rw [DocumentOperation.armed]
  cases op.arming d <;> rfl

theorem foldl_marks (op : DocumentOperation) (d : Document) :
    (op.marks host d).foldl RedrawTimer.take d.timer = (op.run host d).document.timer := by
  rw [DocumentOperation.marks, List.foldl_append, foldl_armed, operation_timer]
  cases op.clears host d <;> rfl

section History

variable {α : Type} (note : Document → DocumentOperation → List α)

/-- What is noted of every operation of a run, with the document that the operation finds. -/
def noted (d : Document) : List DocumentOperation → List α
  | [] => []
  | op :: ops => note d op ++ noted (op.run host d).document ops

theorem noted_append (d : Document) (ops more : List DocumentOperation) :
    d.noted host note (ops ++ more) =
      d.noted host note ops ++ (d.run host ops).document.noted host note more := by
  induction ops generalizing d with
  | nil => rfl
  | cons op ops ih =>
    rw [List.cons_append, noted, noted, ih, List.append_assoc]
    rfl

end History

theorem run_timer (ops : List DocumentOperation) (d : Document) :
    (d.run host ops).document.timer =
      (d.noted host (fun d op => op.marks host d) ops).foldl RedrawTimer.take d.timer := by
  induction ops generalizing d with
  | nil => rfl
  | cons op ops ih =>
    rw [noted, List.foldl_append, foldl_marks]
    exact ih (op.run host d).document

end Document

end BandCanvas
