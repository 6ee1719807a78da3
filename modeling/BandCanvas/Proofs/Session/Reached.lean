import BandCanvas.Proofs.Session.Course
import BandCanvas.Proofs.Session.Whole

namespace BandCanvas

namespace Session

open Chain SessionOperation

variable {s : Session} {op : SessionOperation}

theorem chain_opening (h : op.opens s = true) :
    ∃ page postLoad t, op.chain s = openChain page postLoad t := by
  obtain ⟨t, -, -, hchain⟩ := chain_of_opens h
  exact ⟨t.page, t.postLoad, t.start s, hchain⟩

/-- How an operation other than closing ends. One that fails has failed under way, or has been turned away
and has done nothing. -/
def Concluded (s : Session) (s' : Session) (said : List SessionEffect) :
    Except SessionError Unit → Prop
  | .ok _ => s'.Whole
  | .error e => s'.Failed said e ∨ s' = s ∧ said = []

theorem Sound.concluded {c : Chain Unit} (h : c.Sound) (s : Session) : c.Always s.Concluded :=
  h.mono fun _ _ r hended => by
    cases r with
    | ok _ => exact hended
    | error e => exact .inl hended

theorem stop_concluded (e : SessionError) (s : Session) :
    (stop s (.error e) : Chain Unit).Always s.Concluded :=
  .inr ⟨rfl, rfl⟩

theorem Whole.withCancelled (h : s.Whole) (cancelled : Bool) : { s with cancelled }.Whole := by
  cases h with
  | opened stage loaded => exact .opened stage { loaded with }
  | closed stage documentId opened documentScale loading =>
    exact .closed stage documentId opened documentScale loading

theorem Whole.answered {α : Type} (h : s.Whole) (a : Answer α) : (s.answered a).Whole :=
  h.withCancelled _

theorem Whole.stop {α : Type} (h : s.Whole) (a : α) : (Chain.stop s (.ok a)).Sound :=
  h

theorem Whole.withDocument {o : Outcome} (h : s.Whole) (ho : s.document.Unattended o) :
    { s with document := o.document }.Whole := by
  cases h with
  | opened stage loaded =>
    exact .opened stage { loaded with loading := ho.loading.trans loaded.loading }
  | closed stage documentId opened documentScale loading =>
    exact .closed stage documentId opened documentScale (ho.loading.trans loading)

theorem Whole.loaded (h : s.Whole) (hstage : s.lifecycle.canBecome .navigating = true) :
    s.Loaded := by
  cases h with
  | opened _ loaded => exact loaded
  | closed stage =>
    rw [stage] at hstage
    cases hstage

theorem Whole.withScale (h : s.Whole) (hstage : s.lifecycle = .opened) (scale : Float) :
    { s with documentScale := some scale }.Whole := by
  obtain ⟨documentId, opened, -, loading⟩ := h.loaded (by rw [hstage]; rfl)
  exact .opened hstage ⟨documentId, opened, rfl, loading⟩

theorem chain_concluded (h : s.Whole) (hop : op ≠ .close) : (op.chain s).Always s.Concluded := by
  have hcourse := chain_course s op
  generalize op.enters s = stage at hcourse
  generalize op.chain s = c at hcourse ⊢
  cases hcourse with
  | opens ht hready => exact Sound.concluded (openChain_sound _ _ _) s
  | turns page hturns hid =>
    have hloaded := h.loaded (ready_of_turns hturns)
    refine Sound.concluded (settle_sound silent_nil fun a => ?_) s
    exact .opened rfl { hloaded with }
  | strays hturns hid =>
    -- only an open session turns its pages, so that there is a document to ask for
    have hloaded := h.loaded (ready_of_turns hturns)
    have hsome := hloaded.documentId
    rw [hid] at hsome
    cases hsome
  | closes hcloses hid => exact absurd (ready_of_closes hcloses).1 hop
  | forgets hcloses hid => exact absurd (ready_of_closes hcloses).1 hop
  | zooms zoom scale hstage hid =>
    have hwhole := h.withDocument (s.document.setZoom_unattended zoom)
    have hsilent := silent_onDocument (fun d => d.setZoom_unattended zoom) s
    refine Sound.concluded (settle_sound hsilent fun a => ?_) s
    exact (hwhole.answered a).withScale hstage scale
  | resizes zoom => exact h.withDocument (s.document.setZoom_unattended zoom)
  | asks haside hid => exact Sound.concluded (settle_sound silent_nil fun a => (h.answered a).stop ()) s
  | stops r =>
    cases r with
    | ok _ => exact h
    | error e => exact stop_concluded e s

theorem finishClose_cleared (result : Except SessionError Unit) (s : Session) :
    (finishClose result s).Always fun s' _ _ => s'.Cleared := by
  have hcleared : (s.clear.1.mapPaging (Paging.reset none)).Cleared := { s.clear_cleared with }
  exact hcleared

theorem close_cleared (s : Session) :
    s.close.Always fun s' _ r => s'.Cleared ∨ s' = s ∧ r = .error .busy := by
  have hclosed : ∀ (result : Except SessionError Unit) (t : Session),
      (finishClose result t).Always fun s' _ r => s'.Cleared ∨ s' = s ∧ r = .error .busy :=
    fun result t => (finishClose_cleared result t).mono fun _ _ _ => .inl
  rw [close]
  split
  · dsimp only
    split
    · exact hclosed _ _
    · intro a
      dsimp only
      split <;> exact hclosed _ _
  · exact .inr ⟨rfl, rfl⟩

theorem close_whole (h : s.Whole) : s.close.Always fun s' _ _ => s'.Whole := by
  refine s.close_cleared.mono fun s' said r hclosed => ?_
  rcases hclosed with hcleared | ⟨rfl, -⟩
  · exact hcleared.whole
  · exact h

theorem operation_whole (h : s.Whole) (op : SessionOperation) :
    (op.chain s).Always fun s' _ _ => s'.Whole := by
  by_cases hop : op = .close
  · rw [hop]
    exact close_whole h
  · refine (chain_concluded h hop).mono fun s' said r hconcluded => ?_
    cases r with
    | ok _ => exact hconcluded
    | error e =>
      rcases hconcluded with ⟨hcleared, -⟩ | ⟨rfl, -⟩
      · exact hcleared.whole
      · exact h

/-- Sessions after operations that ran to their end, messages between them, calling off, and giving up anywhere.
-/
inductive Reached : Session → Prop
  | create (o : DocumentOptions) : Reached (create (Document.create o).document)
  | operation {s s' : Session} {op : SessionOperation} {said : List SessionEffect}
    {r : Except SessionError Unit} : Reached s → (op.chain s).Ends s' said r → Reached s'
  | message {s : Session} (host : WidgetHost) (message : String) :
    Reached s → Reached (s.onDocument (Document.handleMessage host message)).1
  | cancel {s : Session} : Reached s → Reached { s with cancelled := true }
  | abort (s : Session) : Reached s.abort.1

theorem Reached.whole (h : s.Reached) : s.Whole := by
  induction h with
  | create o => exact .closed rfl rfl rfl rfl rfl
  | @operation s s' op said r _ hends ih => exact always_iff.1 (operation_whole ih op) s' said r hends
  | @message s host message _ ih =>
    exact ih.withDocument (s.document.handleMessage_unattended host message)
  | cancel _ ih => exact ih.withCancelled true
  | abort s => exact (abort_cleared s).whole

/-- A session is open, with its document, report and scale known, or closed; no failure leaves it in between. -/
theorem never_half_open (h : s.Reached) :
    (s.lifecycle = .opened ∨ s.lifecycle = .closed) ∧
    (s.lifecycle = .opened ↔
      s.documentId.isSome = true ∧ s.opened.isSome = true ∧ s.documentScale.isSome = true) ∧
    s.document.paging.loading = false ∧
    (∀ op : SessionOperation, ∃ s' said r, (op.chain s).Ends s' said r) ∧
    (∀ (op : SessionOperation) (s' : Session) (said : List SessionEffect) (e : SessionError),
      op ≠ .close → (op.chain s).Ends s' said (.error e) →
      op.opens s = true ∨ (∃ x ∈ said, x.isRequest = true) → s'.Failed said e) ∧
    ∀ t : Session, t.abort.1.Cleared := by
  have hwhole := h.whole
  refine ⟨?_, ?_, ?_, fun op => (op.chain s).exists_ends,
    fun op s' said e hop hends hstarted => ?_, abort_cleared⟩
  · cases hwhole with
    | opened stage => exact .inl stage
    | closed stage => exact .inr stage
  · cases hwhole with
    | opened stage loaded =>
      exact ⟨fun _ => ⟨loaded.documentId, loaded.opened, loaded.documentScale⟩, fun _ => stage⟩
    | closed stage documentId =>
      rw [stage, documentId]
      exact ⟨fun h => (nomatch h), fun h => (nomatch h.1)⟩
  · cases hwhole with
    | opened _ loaded => exact loaded.loading
    | closed _ _ _ _ loading => exact loading
  · rcases hstarted with hopens | ⟨x, hx, -⟩
    · obtain ⟨page, postLoad, t, hchain⟩ := chain_opening hopens
      rw [hchain] at hends
      exact always_iff.1 (openChain_sound page postLoad t) s' said (.error e) hends
    · rcases always_iff.1 (chain_concluded hwhole hop) s' said (.error e) hends with hfailed | ⟨-, rfl⟩
      · exact hfailed
      · cases hx

theorem never_half_open_unloaded :
    let chapter : Chapter := ⟨"letter", "letter.jrxml", "pt_PT", true, none, 1⟩
    let model : DocumentModel := ⟨[chapter], none⟩
    let s := create (Document.create DocumentOptions.standard).document
    s.Reached ∧ (SessionOperation.openModel model).opens s = true ∧
      ∃ s' said, ((SessionOperation.openModel model).chain s).Ends s' said
        (.error (.protocol ["no such chapter"])) ∧ s'.Reached ∧
        s'.Failed said (.protocol ["no such chapter"]) := by
  intro chapter model s
  have hreached : s.Reached := .create DocumentOptions.standard
  have hopens : (SessionOperation.openModel model).opens s = true := rfl
  obtain ⟨s', said, hends⟩ : ∃ s' said, ((SessionOperation.openModel model).chain s).Ends s' said
      (.error (.protocol ["no such chapter"])) :=
    ⟨_, _, .opened ⟨false, .ok (.ack ⟨"7", 595, some 842, Margins.none⟩)⟩
      (.answered ⟨false, .ok (.errors ["no such chapter"])⟩ (.done _ _ _))⟩
  obtain ⟨-, -, -, -, hfailed, -⟩ := never_half_open hreached
  exact ⟨hreached, hopens, s', said, hends, hreached.operation hends,
    hfailed (.openModel model) s' said _ (fun h => nomatch h) hends (.inl hopens)⟩

end Session

end BandCanvas
