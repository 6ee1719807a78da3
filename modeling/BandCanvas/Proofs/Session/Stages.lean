import BandCanvas.Proofs.Session.Opening

namespace BandCanvas

open Chain SessionOperation

/-- A stage, and the one that comes after it, when all of a history has happened. -/
inductive Session.Moves (host : WidgetHost) : List Happening → Lifecycle → Lifecycle → Prop
  | begins {h : List Happening} {s : Session} {stage : Lifecycle} (op : SessionOperation) :
    Run host h s → op.enters s = some stage →
    Moves host (h ++ [.began op (op.opens s)]) s.lifecycle stage
  | starts {h : List Happening} {s : Session} (op : SessionOperation) : Run host h s →
    Moves host (h ++ [.began op (op.opens s)]) ((op.enters s).getD s.lifecycle)
      (op.chain s).session.lifecycle
  | goes {h hs : List Happening} {s : Session} {c d : Chain Unit} {x : Happening}
    (op : SessionOperation) : Run host h s → (op.chain s).Goes hs c → c.Next x d →
    Moves host (h ++ [.began op (op.opens s)] ++ hs ++ c.said ++ [x]) c.session.lifecycle
      d.session.lifecycle
  | uses {h : List Happening} {s : Session} (op : DocumentOperation) : Run host h s →
    Moves host (h ++ [.document op]) s.lifecycle (s.onDocument (op.run host)).1.lifecycle
  | cancels {h : List Happening} {s : Session} : Run host h s →
    Moves host (h ++ [.cancelled]) s.lifecycle { s with cancelled := true }.lifecycle
  | aborts {h : List Happening} {s : Session} : Run host h s →
    Moves host (h ++ [.aborted]) s.lifecycle s.abort.1.lifecycle

/-- The last that happened is that the session was given up, or that something it asked aside has failed. -/
inductive Happening.Drop : List Happening → Prop
  | aborted (h : List Happening) : Drop (h ++ [.aborted])
  | refused {r : SessionRequest} {a : Answer Json} {e : SessionError} (h : List Happening) :
    r.isAside = true → a.outcome = .error e → Drop (h ++ [.said (.ask r)] ++ [.answered a])

open Happening

/-- A stage stays, or becomes another one that may follow it, or an open session is dropped. -/
inductive Lifecycle.Follows (h : List Happening) (x : Lifecycle) : Lifecycle → Prop
  | stays : Follows h x x
  | becomes {y : Lifecycle} : x.canBecome y = true → Follows h x y
  | drops : x = .opened → Drop h → Follows h x .closed

open Lifecycle

namespace Chain

variable {α β : Type} {h : List Happening} {s : Session} {said : List SessionEffect}
  {request : SessionRequest}

def Steps (h : List Happening) (c : Chain α) : Prop :=
  ∀ x d, c.Next x d → Follows (h ++ c.said ++ [x]) c.session.lifecycle d.session.lifecycle

theorem steps_done (h : List Happening) (r : Except SessionError α) :
    (Chain.done s said r).Throughout Steps h := by
  apply throughout_done
  intro x d hnext
  cases hnext

theorem steps_ask {resume : Session → Answer Json → Chain α}
    (hstage : ∀ a, Follows (h ++ said.map .said ++ [.said (.ask request)] ++ [.answered a]) s.lifecycle
      (resume (s.answered a) a).session.lifecycle)
    (hresume : ∀ a h, (resume (s.answered a) a).Throughout Steps h) :
    (ask s said request resume).Throughout Steps h := by
  apply throughout_ask (P := Steps)
  · intro x d hnext
    cases hnext with
    | answered _ _ _ a =>
      have hsaid : (ask s said request resume).said = said.map .said ++ [.said (.ask request)] :=
        List.map_append
      rw [hsaid, ← List.append_assoc]
      exact hstage a
  · intro a
    exact hresume a _

theorem steps_attempt {verdict : Session → Answer Json → Except SessionError β}
    {next : Session → Chain α}
    (hfailed : ∀ h a e, verdict (s.answered a) a = .error e →
      Follows (h ++ [.said (.ask request)] ++ [.answered a]) s.lifecycle .closed)
    (hstage : ∀ a : Answer Json, ∀ h, Follows h s.lifecycle (next (s.answered a)).session.lifecycle)
    (hnext : ∀ (a : Answer Json) h, (next (s.answered a)).Throughout Steps h) :
    (attempt s said request verdict next).Throughout Steps h := by
  apply steps_ask
  · intro a
    cases hverdict : verdict (s.answered a) a with
    | error e => exact hfailed _ a e hverdict
    | ok value => exact hstage a _
  · intro a h
    split
    · exact steps_done h _
    · exact hnext a h

theorem steps_attemptOpen {chapter : Chapter} {next : Session → OpenedDocument → Chain Unit}
    (hfailed : s.lifecycle.canBecome .closed = true)
    (hstage : ∀ (a : Answer OpenedDocument) o h, Follows h s.lifecycle (next (s.answered a) o).session.lifecycle)
    (hnext : ∀ (a : Answer OpenedDocument) o h, (next (s.answered a) o).Throughout Steps h) :
    (attemptOpen s said chapter next).Throughout Steps h := by
  apply throughout_attemptOpen (Q := Steps)
  · intro x d hstep
    cases hstep with
    | opened _ _ _ a =>
      dsimp only
      cases a.taken (s.answered a) with
      | error e => exact .becomes hfailed
      | ok o => exact hstage a o _
  · intro a e _ x d hstep
    cases hstep
  · intro a o _
    exact hnext a o _

end Chain

namespace Session

variable {h : List Happening} {s : Session} {said : List SessionEffect} {op : SessionOperation}

theorem arrive_steps (chapter : Chapter) (scale : Float) (postLoad : Option String) (id : String)
    (hstage : s.lifecycle = .opening) : (arrive chapter scale postLoad id s).Throughout Steps h := by
  cases postLoad with
  | none => exact steps_done h _
  | some text =>
    have hshown : (s.showChapter chapter scale).1.lifecycle = .opening := hstage
    rw [arrive_some]
    apply steps_attempt
    · intro h a e _
      rw [hshown]
      exact .becomes rfl
    · intro a h
      rw [hshown]
      exact .becomes rfl
    · intro a h
      exact steps_done h _

theorem load_steps (chapter : Chapter) (page : Int) (postLoad : Option String) (id : String)
    (hstage : s.lifecycle = .opening) :
    (load chapter page postLoad id s said).Throughout Steps h := by
  apply steps_attempt
  · intro h a e _
    rw [hstage]
    exact .becomes rfl
  · intro a h
    cases postLoad with
    | none =>
      rw [hstage]
      exact .becomes rfl
    | some text => exact .stays
  · intro a h
    exact arrive_steps chapter _ postLoad id hstage

theorem openChain_steps (page : Int) (postLoad : Option String) (hstage : s.lifecycle = .opening) :
    (openChain page postLoad s).Throughout Steps h ∧
      Follows h .opening (openChain page postLoad s).session.lifecycle := by
  have hblank : s.blank.1.lifecycle = .opening := hstage
  have hway := openChain_way page postLoad s
  generalize openChain page postLoad s = c at hway ⊢
  cases hway with
  | nowhere hchapter => exact ⟨steps_done h _, .becomes rfl⟩
  | stays hchapter hopened hid =>
    refine ⟨load_steps _ _ _ _ hblank, ?_⟩
    exact hblank ▸ .stays
  | @opens chapter hchapter hother =>
    refine ⟨?_, hblank ▸ .stays⟩
    apply steps_attemptOpen
    · rw [hblank]
      rfl
    · intro a o h
      exact .stays
    · intro a o h
      exact load_steps _ _ _ _ hblank

/-- Wherever a session is, it may be closed when something fails that it asked aside. -/
theorem follows_refused {r : SessionRequest} {a : Answer Json} {e : SessionError} (x : Lifecycle)
    (haside : r.isAside = true) (ha : a.outcome = .error e) :
    Follows (h ++ [.said (.ask r)] ++ [.answered a]) x .closed := by
  cases x with
  | closed => exact .stays
  | opened => exact .drops rfl (.refused h haside ha)
  | opening | navigating | closing => exact .becomes rfl

theorem enters_canBecome {stage : Lifecycle} (hstage : op.enters s = some stage) :
    s.lifecycle.canBecome stage = true := by
  have hcourse := chain_course s op
  rw [hstage] at hcourse
  generalize op.chain s = c at hcourse
  cases hcourse with
  | opens ht hready => exact hready
  | turns page hturns hid => exact ready_of_turns hturns
  | strays hturns hid => exact ready_of_turns hturns
  | closes hcloses hid => exact (ready_of_closes hcloses).2
  | forgets hcloses hid => exact (ready_of_closes hcloses).2

theorem chain_steps (op : SessionOperation) (s : Session) :
    (op.chain s).Throughout Steps h ∧
      Follows h ((op.enters s).getD s.lifecycle) (op.chain s).session.lifecycle := by
  have hcourse := chain_course s op
  generalize op.enters s = stage at hcourse ⊢
  generalize op.chain s = c at hcourse ⊢
  cases hcourse with
  | opens ht hready => exact openChain_steps _ _ rfl
  | turns page hturns hid =>
    refine ⟨?_, .stays⟩
    rw [settle_eq_attempt]
    apply steps_attempt
    · intro h a e _
      exact .becomes rfl
    · intro a h
      exact .becomes rfl
    · intro a h
      exact steps_done h _
  | strays hturns hid => exact ⟨steps_done h _, .stays⟩
  | closes hcloses hid =>
    refine ⟨?_, .stays⟩
    apply steps_ask
    · intro a
      exact .becomes rfl
    · intro a h
      exact steps_done h _
  | forgets hcloses hid => exact ⟨steps_done h _, .becomes rfl⟩
  | zooms zoom scale hstage hid =>
    refine ⟨?_, .stays⟩
    rw [settle_eq_attempt]
    apply steps_attempt
    · intro h a e ha
      exact follows_refused s.lifecycle rfl ha
    · intro a h
      exact .stays
    · intro a h
      exact steps_done h _
  | resizes zoom => exact ⟨steps_done h _, .stays⟩
  | asks haside hid =>
    refine ⟨?_, .stays⟩
    rw [settle_eq_attempt]
    apply steps_attempt
    · intro h a e ha
      exact follows_refused s.lifecycle haside ha
    · intro a h
      exact .stays
    · intro a h
      exact steps_done h _
  | stops r => exact ⟨steps_done h _, .stays⟩

/-- Every change of the stage is one of the table, but for an open session that is dropped. -/
theorem stages_follow {host : WidgetHost} {x y : Lifecycle} (hmoves : Moves host h x y) :
    Follows h x y := by
  cases hmoves with
  | begins op hrun hstage => exact .becomes (enters_canBecome hstage)
  | starts op hrun => exact (chain_steps op _).2
  | @goes h hs s c d x op hrun hgoes hnext => exact (chain_steps op s).1 hs c hgoes x d hnext
  | uses op hrun => exact .stays
  | cancels hrun => exact .stays
  | @aborts h s hrun =>
    have hclosed : s.abort.1.lifecycle = .closed := rfl
    rw [hclosed]
    cases s.lifecycle with
    | closed => exact .stays
    | opened => exact .drops rfl (.aborted h)
    | opening | navigating | closing => exact .becomes rfl

theorem stages_follow_refused :
    let host : WidgetHost := ⟨fun _ => none, fun _ _ => .ok (), fun _ box => box⟩
    let refusal : Answer Json := ⟨false, .ok (.errors ["not a date"])⟩
    ∃ h, Moves host (h ++ [.answered refusal]) .opened .closed ∧
      Follows (h ++ [.answered refusal]) .opened .closed := by
  intro host refusal
  obtain ⟨h, s, hrun, -, hstage, hid, -⟩ := run_letters host
  let op : SessionOperation := .commitValue "soon" .right
  have hchain : op.chain s =
      settle s [] (.setText "7" "soon" .right) fun s => stop s (.ok ()) := by
    show s.commitValue "soon" .right = _
    rw [commitValue, hid]
  have hopened : (op.chain s).session.lifecycle = .opened := by
    rw [hchain]
    exact hstage
  obtain ⟨d, hnext, hclosed⟩ : ∃ d, (op.chain s).Next (.answered refusal) d ∧
      d.session.lifecycle = .closed := by
    rw [hchain]
    exact ⟨_, .answered _ _ _ _, rfl⟩
  have hmoves := Moves.goes op hrun (.refl _) hnext
  rw [hopened, hclosed] at hmoves
  exact ⟨_, hmoves, stages_follow hmoves⟩

/-- The table does not have every change. An open session that is given up is closed at once. -/
theorem not_stages_in_table :
    ¬∀ (host : WidgetHost) (h : List Happening) (x y : Lifecycle), Moves host h x y →
      x = y ∨ x.canBecome y = true := by
  intro htable
  obtain ⟨h, s, hrun, -, hstage, -⟩ := run_letters ⟨fun _ => none, fun _ _ => .ok (), fun _ box => box⟩
  have hmoves := Moves.aborts hrun
  have hclosed : s.abort.1.lifecycle = .closed := rfl
  rw [hstage, hclosed] at hmoves
  rcases htable _ _ _ _ hmoves with hsame | hbecomes
  · cases hsame
  · cases hbecomes

end Session

end BandCanvas
