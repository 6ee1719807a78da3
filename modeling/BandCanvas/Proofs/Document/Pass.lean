import BandCanvas.Document.Live
import BandCanvas.Proofs.Command.Progress

namespace BandCanvas

/-- Whether a command is the last one of a live pass. -/
def Command.endsPass : Command → Bool
  | .update | .editor (.prepare _) => true
  | _ => false

theorem Command.endsReplay_of_endsPass {k : Command} (h : k.endsPass) : k.endsReplay := by
  unfold endsPass at h
  split at h
  · rfl
  · rfl
  · cases h

abbrev Step := Except DecodeError Command × Cursor

namespace Step

def finds (p : Command → Bool) : Step → Bool
  | (.ok k, _) => p k
  | (.error _, _) => false

/-- The steps up to the first that finds such a command, and this one. -/
def through (p : Command → Bool) : List Step → List Step
  | [] => []
  | x :: xs => if finds p x then [x] else x :: through p xs

/-- The steps before the first that finds such a command. -/
def before (p : Command → Bool) (xs : List Step) : List Step :=
  xs.takeWhile fun x => !finds p x

variable {p q : Command → Bool} {xs pre post : List Step} {x : Step}

theorem through_stop {k : Command} {c : Cursor} (h : p k = true) :
    through p ((.ok k, c) :: xs) = [(.ok k, c)] :=
  if_pos h

theorem through_go {k : Command} {c : Cursor} (h : p k = false) :
    through p ((.ok k, c) :: xs) = (.ok k, c) :: through p xs :=
  if_neg (by rw [finds, h]; decide)

theorem through_prefix (p : Command → Bool) (xs : List Step) : through p xs <+: xs := by
  induction xs with
  | nil => exact List.prefix_refl []
  | cons x xs ih =>
    rw [through]
    split
    · exact ⟨xs, rfl⟩
    · exact List.cons_prefix_cons.2 ⟨rfl, ih⟩

theorem finds_mono (hpq : ∀ k, p k → q k) (h : finds p x) : finds q x := by
  obtain ⟨r, c⟩ := x
  cases r with
  | error e => cases h
  | ok k => exact hpq k h

theorem through_split (h : through p xs = pre ++ x :: post) (hx : finds p x = false) :
    ∃ rest, xs = pre ++ x :: rest ∧ post = through p rest := by
  induction pre generalizing xs with
  | nil =>
    cases xs with
    | nil => cases h
    | cons y ys =>
      rw [through] at h
      split at h
      next hy =>
        obtain ⟨rfl, _⟩ := List.cons.inj h
        rw [hy] at hx
        cases hx
      next =>
        obtain ⟨rfl, hpost⟩ := List.cons.inj h
        exact ⟨ys, rfl, hpost.symm⟩
  | cons z pre ih =>
    cases xs with
    | nil => cases h
    | cons y ys =>
      rw [through] at h
      split at h
      · simp at h
      · obtain ⟨rfl, htail⟩ := List.cons.inj h
        obtain ⟨rest, rfl, hpost⟩ := ih htail
        exact ⟨rest, rfl, hpost⟩

theorem through_last (h : through p xs = pre ++ x :: post) (hx : finds p x = true) : post = [] := by
  induction pre generalizing xs with
  | nil =>
    cases xs with
    | nil => cases h
    | cons y ys =>
      rw [through] at h
      split at h
      next => exact (List.cons.inj h).2.symm
      next hy =>
        obtain ⟨rfl, _⟩ := List.cons.inj h
        exact absurd hx hy
  | cons z pre ih =>
    cases xs with
    | nil => cases h
    | cons y ys =>
      rw [through] at h
      split at h
      · simp at h
      · exact ih (List.cons.inj h).2

theorem not_finds_of_through (h : through p xs = pre ++ x :: post) :
    ∀ y ∈ pre, finds p y = false := by
  intro y hy
  obtain ⟨pre₁, pre₂, rfl⟩ := List.append_of_mem hy
  cases hp : finds p y with
  | false => rfl
  | true =>
    rw [List.append_assoc] at h
    have hlast := through_last h hp
    simp at hlast

theorem not_finds_of_before (hpq : ∀ k, p k → q k) : ∀ y ∈ before q xs, finds p y = false := by
  intro y hy
  have hq : finds q y = false := by simpa using List.all_eq_true.1 List.all_takeWhile y hy
  cases hp : finds p y with
  | false => rfl
  | true =>
    rw [finds_mono hpq hp] at hq
    cases hq

/-- The end of a pass is a delimiter, so nothing before the next delimiter is cut off. -/
theorem before_through (hpq : ∀ k, p k → q k) (xs : List Step) :
    before q (through p xs) = before q xs := by
  induction xs with
  | nil => rfl
  | cons x xs ih =>
    rw [through]
    split
    next hx => simp [before, finds_mono hpq hx]
    next =>
      simp only [before, List.takeWhile_cons] at ih ⊢
      rw [ih]

end Step

/-- Steps that go on from one another, up to the end of the text. -/
inductive Cursor.Decodes : Cursor → List Step → Prop
  | done {c : Cursor} : c.step = none → Decodes c []
  | next {c : Cursor} {x : Step} {xs : List Step} : c.step = some x → x.2.Decodes xs →
    Decodes c (x :: xs)

theorem Cursor.Decodes.steps_eq {c : Cursor} {xs : List Step} (h : c.Decodes xs) : c.steps = xs := by
  induction h with
  | done hend => exact steps_of_none hend
  | next hstep _ ih => rw [steps_of_some hstep, ih]

theorem Cursor.steps_nodup (c : Cursor) :
    c.steps.Nodup ∧ ∀ x ∈ c.steps, x.2.rest.length < c.rest.length := by
  induction hn : c.rest.length using Nat.strongRecOn generalizing c with
  | ind n ih =>
    cases hc : c.step with
    | none =>
      rw [steps_of_none hc]
      exact ⟨.nil, fun x hx => by cases hx⟩
    | some x =>
      obtain ⟨r, d⟩ := x
      have hlt := step_length_lt hc
      obtain ⟨hnodup, hshort⟩ := ih d.rest.length (hn ▸ hlt) d rfl
      rw [steps_of_some hc]
      refine ⟨List.nodup_cons.2 ⟨fun hx => ?_, hnodup⟩, fun x hx => ?_⟩
      · exact Nat.lt_irrefl _ (hshort _ hx)
      · rcases List.mem_cons.1 hx with rfl | hx
        · exact hn ▸ hlt
        · exact hn ▸ Nat.lt_trans (hshort x hx) hlt

namespace Fragment

def decoded (f : Fragment) : List Step :=
  Step.through Command.endsPass f.cursor.steps

/-- The steps that a replay runs. -/
def replayed (f : Fragment) : List Step :=
  Step.before Command.endsReplay f.cursor.steps

/-- A live pass decodes all steps of its stream where none but the last one ends it. -/
theorem decoded_eq {f : Fragment} {xs : List Step} (h : f.cursor.Decodes xs)
    (hall : Step.through Command.endsPass xs = xs) : f.decoded = xs := by
  rw [decoded, h.steps_eq, hall]

theorem cursor_of_in {source : String} {c : Cursor} (h : c.In source.toList) :
    cursor ⟨source, c.offset⟩ = c :=
  h.atOffset_eq

/-- From a step on that does not end the pass, a replay runs what the pass decoded next. -/
theorem replayed_after {f : Fragment} {pre post : List Step} {r : Except DecodeError Command}
    {c : Cursor} (h : f.decoded = pre ++ (r, c) :: post)
    (hr : Step.finds Command.endsPass (r, c) = false) :
    replayed ⟨f.source, c.offset⟩ = Step.before Command.endsReplay post := by
  obtain ⟨rest, hsteps, rfl⟩ := Step.through_split h hr
  obtain ⟨hbefore, hstep, hrest⟩ := Cursor.steps_split hsteps
  have hfollows := hbefore.trans (Cursor.step_follows hstep)
  have hin : c.In f.source.toList := (Cursor.atOffset_in f.source f.offset).follows hfollows
  rw [replayed, cursor_of_in hin, hrest, Step.before_through fun _ => Command.endsReplay_of_endsPass]

end Fragment

namespace Document

/-- Runs decoded steps live. Nothing is left of a pass that a step ends. -/
def runSteps (host : WidgetHost) (source : String) :
    List Step → LivePass → Document → Outcome × Option LivePass
  | [], p, d => (d.quiet, some p)
  | (.error _, _) :: xs, p, d => runSteps host source xs p d
  | (.ok k, c) :: xs, p, d =>
    match d.perform host source c.offset p k with
    | (o, none) => (o, none)
    | (o, some p) =>
      let (o', p') := runSteps host source xs p o.document
      (⟨o'.document, o.effects ++ o'.effects⟩, p')

variable (host : WidgetHost) (source : String)

theorem perform_cases (position : Nat) (p : LivePass) (d : Document) (k : Command) :
    (k.endsPass = true ∧ ∃ o, d.perform host source position p k = (o, none)) ∨
      (k.endsPass = false ∧ ∃ o p', d.perform host source position p k = (o, some p')) := by
  cases k with
  | reset hard => cases hard <;> exact .inr ⟨rfl, _, _, rfl⟩
  | update => exact .inl ⟨rfl, _, rfl⟩
  | editor e =>
    cases e with
    | prepare box => exact .inl ⟨rfl, _, rfl⟩
    | _ => exact .inr ⟨rfl, _, _, rfl⟩
  | _ => exact .inr ⟨rfl, _, _, rfl⟩

variable {host source} {c : Cursor} {k : Command} {p p' : LivePass} {d : Document} {o : Outcome}

theorem runSteps_stop (ho : d.perform host source c.offset p k = (o, none)) (xs : List Step) :
    runSteps host source ((.ok k, c) :: xs) p d = (o, none) := by
  rw [runSteps, ho]

theorem runSteps_go (ho : d.perform host source c.offset p k = (o, some p')) (xs : List Step) :
    runSteps host source ((.ok k, c) :: xs) p d =
      (⟨(runSteps host source xs p' o.document).1.document,
        o.effects ++ (runSteps host source xs p' o.document).1.effects⟩,
        (runSteps host source xs p' o.document).2) := by
  rw [runSteps, ho]

/-- What holds of a document, and is kept by every command of a run, holds after the run. -/
theorem runSteps_invariant {P : Document → Prop} {xs : List Step}
    (hstep : ∀ (k : Command) (c : Cursor) (p : LivePass) (d : Document), (.ok k, c) ∈ xs → P d →
      P (d.perform host source c.offset p k).1.document)
    (p : LivePass) (h : P d) : P (runSteps host source xs p d).1.document := by
  induction xs generalizing p d with
  | nil => exact h
  | cons x xs ih =>
    have hrest := fun k c p d hmem => hstep k c p d (List.mem_cons_of_mem x hmem)
    obtain ⟨r, c⟩ := x
    cases r with
    | error e => exact ih hrest p h
    | ok k =>
      have hfirst := hstep k c p d List.mem_cons_self h
      rcases perform_cases host source c.offset p d k with ⟨-, o, ho⟩ | ⟨-, o, p', ho⟩
      · rw [ho] at hfirst
        rw [runSteps_stop ho]
        exact hfirst
      · rw [ho] at hfirst
        rw [runSteps_go ho]
        exact ih hrest p' hfirst

/-- Two runs that find the same stay related and say the same, if each command keeps it so. -/
theorem runSteps_related {R : Document → Document → Prop} {f : Step → Step} {source' : String}
    (hfound : ∀ x, (f x).1.toOption = x.1.toOption)
    (hperform : ∀ (x : Step) (p : LivePass) (k : Command) {d d' : Document}, R d d' →
      R (d.perform host source x.2.offset p k).1.document
          (d'.perform host source' (f x).2.offset p k).1.document ∧
        (d'.perform host source' (f x).2.offset p k).1.effects =
          (d.perform host source x.2.offset p k).1.effects ∧
        (d'.perform host source' (f x).2.offset p k).2 = (d.perform host source x.2.offset p k).2)
    (xs : List Step) (p : LivePass) {d d' : Document} (h : R d d') :
    R (runSteps host source xs p d).1.document (runSteps host source' (xs.map f) p d').1.document ∧
      (runSteps host source' (xs.map f) p d').1.effects = (runSteps host source xs p d).1.effects := by
  induction xs generalizing p d d' with
  | nil => exact ⟨h, rfl⟩
  | cons x xs ih =>
    have hsame := hfound x
    have hstep := hperform x p
    obtain ⟨r, c⟩ := x
    rw [List.map_cons]
    generalize f (r, c) = y at hsame hstep
    obtain ⟨r', c'⟩ := y
    cases r with
    | error e =>
      cases r' with
      | error e' => exact ih p h
      | ok k' => cases hsame
    | ok k =>
      cases r' with
      | error e' => cases hsame
      | ok k' =>
        cases hsame
        obtain ⟨hdocument, heffects, hpass⟩ := hstep k h
        rcases perform_cases host source c.offset p d k with ⟨-, o, ho⟩ | ⟨-, o, p', ho⟩
        · rw [ho] at hdocument heffects hpass
          rw [runSteps_stop ho, runSteps_stop (Prod.ext rfl hpass)]
          exact ⟨hdocument, heffects⟩
        · rw [ho] at hdocument heffects hpass
          rw [runSteps_go ho, runSteps_go (Prod.ext rfl hpass), heffects]
          obtain ⟨hrest, hsaid⟩ := ih p' hdocument
          exact ⟨hrest, congrArg (o.effects ++ ·) hsaid⟩

variable (host source)

theorem liveFrom_eq_runSteps (c : Cursor) (p : LivePass) (d : Document) :
    liveFrom host source c p d = (runSteps host source c.steps p d).1 := by
  induction hn : c.rest.length using Nat.strongRecOn generalizing c p d with
  | ind n ih =>
    rw [liveFrom]
    split
    next hc =>
      rw [Cursor.steps_of_none hc]
      rfl
    next hc =>
      rw [Cursor.steps_of_some hc]
      exact ih _ (hn ▸ Cursor.step_length_lt hc) _ _ _ rfl
    next k next hc =>
      rw [Cursor.steps_of_some hc]
      rcases perform_cases host source next.offset p d k with ⟨_, o, ho⟩ | ⟨_, o, p', ho⟩
      · rw [runSteps_stop ho]
        simp only [ho]
      · rw [runSteps_go ho]
        simp only [ho, Outcome.andThen, ih _ (hn ▸ Cursor.step_length_lt hc) _ _ _ rfl]

theorem runSteps_through (xs : List Step) (p : LivePass) (d : Document) :
    runSteps host source (Step.through Command.endsPass xs) p d = runSteps host source xs p d := by
  induction xs generalizing p d with
  | nil => rfl
  | cons x xs ih =>
    obtain ⟨r, c⟩ := x
    cases r with
    | error e => exact ih p d
    | ok k =>
      rcases perform_cases host source c.offset p d k with ⟨hk, o, ho⟩ | ⟨hk, o, p', ho⟩
      · rw [Step.through_stop hk, runSteps_stop ho, runSteps_stop ho]
      · rw [Step.through_go hk, runSteps_go ho, runSteps_go ho, ih]

theorem runSteps_append (xs ys : List Step) (p : LivePass) (d : Document) :
    runSteps host source (xs ++ ys) p d =
      match runSteps host source xs p d with
      | (o, none) => (o, none)
      | (o, some p) =>
        let (o', p') := runSteps host source ys p o.document
        (⟨o'.document, o.effects ++ o'.effects⟩, p') := by
  induction xs generalizing p d with
  | nil => rfl
  | cons x xs ih =>
    obtain ⟨r, c⟩ := x
    cases r with
    | error e => exact ih p d
    | ok k =>
      rcases perform_cases host source c.offset p d k with ⟨_, o, ho⟩ | ⟨_, o, p', ho⟩
      · rw [List.cons_append, runSteps_stop ho, runSteps_stop ho]
      · rw [List.cons_append, runSteps_go ho, runSteps_go ho, ih]
        cases hrun : runSteps host source xs p' o.document with
        | mk o' p'' =>
        cases p'' with
        | none => rfl
        | some p'' => simp [List.append_assoc]

/-- A live pass sets the initial style, and runs the steps that it decodes. -/
theorem live_eq_runSteps (f : Fragment) (d : Document) :
    d.live host f =
      (Outcome.mk d (Effect.calls PaintState.initial.styleCalls)).andThen fun d =>
        (runSteps host f.source f.decoded LivePass.initial d).1 := by
  rw [live]
  congr 1
  funext d
  rw [liveFrom_eq_runSteps, Fragment.decoded, runSteps_through]

end Document

namespace Paint

def runSteps (ratio : Float) : List Step → PaintState → ImageCache → ImageCache × List Effect
  | [], _, images => (images, [])
  | (.error _, _) :: xs, s, images => runSteps ratio xs s images
  | (.ok k, _) :: xs, s, images =>
    let (s, images, effects) := draw ⟨ratio, true⟩ s images k
    let (images, rest) := runSteps ratio xs s images
    (images, effects ++ rest)

end Paint

namespace Fragment

theorem replayFrom_eq_runSteps (ratio : Float) (c : Cursor) (s : PaintState) (images : ImageCache) :
    replayFrom ratio c s images =
      Paint.runSteps ratio (Step.before Command.endsReplay c.steps) s images := by
  induction hn : c.rest.length using Nat.strongRecOn generalizing c s images with
  | ind n ih =>
    rw [replayFrom]
    split
    next hc =>
      rw [Cursor.steps_of_none hc]
      rfl
    next hc =>
      rw [Cursor.steps_of_some hc, ih _ (hn ▸ Cursor.step_length_lt hc) _ _ _ rfl]
      rfl
    next k next hc =>
      rw [Cursor.steps_of_some hc]
      split
      next hk => simp [Step.before, Step.finds, hk, Paint.runSteps]
      next hk =>
        have hgo : Step.before Command.endsReplay ((.ok k, next) :: next.steps) =
            (.ok k, next) :: Step.before Command.endsReplay next.steps := by
          simp [Step.before, Step.finds, hk]
        rw [hgo, Paint.runSteps]
        simp only [ih _ (hn ▸ Cursor.step_length_lt hc) _ _ _ rfl]

/-- A replay sets the initial style, and runs the steps up to the next delimiter. -/
theorem replay_eq_runSteps (ratio : Float) (f : Fragment) (images : ImageCache) :
    f.replay ratio images =
      let (images, effects) := Paint.runSteps ratio f.replayed PaintState.initial images
      (images, Effect.calls PaintState.initial.styleCalls ++ effects) := by
  rw [replay, replayFrom_eq_runSteps]
  rfl

end Fragment

end BandCanvas
