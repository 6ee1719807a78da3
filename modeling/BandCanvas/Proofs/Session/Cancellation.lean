import BandCanvas.Proofs.Session.Opening
import BandCanvas.Proofs.Session.Whole

namespace BandCanvas

def CanvasCall.resizes : CanvasCall → Bool
  | .resize .. => true
  | _ => false

/-- Whether nothing goes out to the server or is expected of it, and the canvas keeps its size. -/
def SessionEffect.staysHere : SessionEffect → Bool
  | .document (.call k) => !k.resizes
  | .document _ => true
  | _ => false

namespace Document

theorem resizes_gridLines (d : Document) (onMajor : Bool) :
    ∀ k ∈ d.gridLines onMajor, k.resizes = false := by
  intro k hk
  simp only [gridLines, List.mem_append, List.mem_cons, List.mem_flatMap, List.not_mem_nil,
    or_false] at hk
  rcases hk with (((rfl | rfl | rfl) | ⟨x, _, rfl | rfl⟩) | ⟨y, _, rfl | rfl⟩) | rfl <;> rfl

theorem resizes_grid (d : Document) : ∀ k ∈ d.grid, k.resizes = false := by
  rw [grid]
  split
  · exact List.forall_mem_append.2 ⟨d.resizes_gridLines false, d.resizes_gridLines true⟩
  · exact List.forall_mem_nil _

theorem resizes_clearPage (d : Document) : ∀ k ∈ d.clearPage, k.resizes = false := by
  intro k hk
  simp only [clearPage, List.mem_append, List.mem_cons, List.not_mem_nil, or_false] at hk
  rcases hk with ((rfl | rfl | rfl | rfl) | hgrid) | rfl
  case inl.inr => exact d.resizes_grid k hgrid
  all_goals rfl

theorem hideMenu_staysHere (d : Document) :
    ∀ e ∈ d.hideMenu.effects, (SessionEffect.document e).staysHere = true := by
  rw [hideMenu]
  split
  · exact List.forall_mem_singleton.2 rfl
  · exact List.forall_mem_nil _

theorem reset_staysHere (d : Document) :
    ∀ e ∈ d.reset.effects, (SessionEffect.document e).staysHere = true := by
  rw [reset_eq]
  intro e he
  rcases List.mem_append.1 he with he | he
  · rcases List.mem_append.1 he with he | he
    · exact d.hideMenu_staysHere e he
    · obtain ⟨told, -, rfl⟩ := List.mem_map.1 he
      rfl
  · rcases List.mem_cons.1 he with rfl | he
    · rfl
    · obtain ⟨k, hk, rfl⟩ := List.mem_map.1 he
      exact congrArg not (d.resizes_clearPage k hk)

end Document

namespace Chain

variable {α β : Type} {s : Session} {said : List SessionEffect} {h : List Happening}

/-- An operation that fails as soon as it is called off. -/
def Heeds (c : Chain α) : Prop :=
  ∀ x d, c.Next x d → x.callsOff = true → ∃ e, d = failed { c.session with cancelled := true } [] e

theorem answered_of_cancelled {a : Answer β} (ha : a.cancelled = true) (s : Session) :
    s.answered a = { s with cancelled := true } := by
  rw [Session.answered, ha, Bool.or_true]

theorem heeds_done (r : Except SessionError α) : (Chain.done s said r).Throughout (fun _ => Heeds) h := by
  apply throughout_done
  intro x d hnext
  cases hnext

theorem heeds_attempt {request : SessionRequest}
    {verdict : Session → Answer Json → Except SessionError β} {next : Session → Chain α}
    (hverdict : ∀ (t : Session) a, t.cancelled = true → ∃ e, verdict t a = .error e)
    (hnext : ∀ s h, (next s).Throughout (fun _ => Heeds) h) :
    (attempt s said request verdict next).Throughout (fun _ => Heeds) h := by
  apply throughout_attempt
  · intro x d hstep hx
    cases hstep with
    | answered _ _ _ a =>
      dsimp only
      rw [answered_of_cancelled hx]
      obtain ⟨e, he⟩ := hverdict { s with cancelled := true } a rfl
      rw [he]
      exact ⟨e, rfl⟩
  · intro a e _ x d hstep
    cases hstep
  · intro a value _
    exact hnext _ _

theorem heeds_attemptOpen {chapter : Chapter} {next : Session → OpenedDocument → Chain Unit}
    (hnext : ∀ s o h, (next s o).Throughout (fun _ => Heeds) h) :
    (attemptOpen s said chapter next).Throughout (fun _ => Heeds) h := by
  apply throughout_attemptOpen
  · intro x d hstep hx
    cases hstep with
    | opened _ _ _ a =>
      dsimp only
      rw [answered_of_cancelled hx]
      obtain ⟨e, he⟩ := a.taken_of_cancelled (s := { s with cancelled := true }) rfl
      rw [he]
      exact ⟨e, rfl⟩
  · intro a e _ x d hstep
    cases hstep
  · intro a o _
    exact hnext _ _ _

end Chain

namespace Session

open Chain SessionOperation

variable {s : Session} {said : List SessionEffect} {h : List Happening} {op : SessionOperation}

theorem load_heeds (chapter : Chapter) (page : Int) (postLoad : Option String) (id : String) :
    (load chapter page postLoad id s said).Throughout (fun _ => Heeds) h := by
  apply heeds_attempt
  · intro t a ht
    exact a.taken_of_cancelled ht
  · intro t h
    cases postLoad with
    | none => exact heeds_done _
    | some text =>
      apply heeds_attempt
      · intro t a ht
        exact a.heeded_of_cancelled ht
      · intro t h
        exact heeds_done _

theorem openChain_heeds (page : Int) (postLoad : Option String) (s : Session) :
    (openChain page postLoad s).Throughout (fun _ => Heeds) h := by
  have hway := openChain_way page postLoad s
  generalize openChain page postLoad s = c at hway ⊢
  cases hway with
  | nowhere hchapter => exact heeds_done _
  | stays hchapter hopened hid => exact load_heeds _ _ _ _
  | opens hchapter hother =>
    apply heeds_attemptOpen
    intro t o h
    exact load_heeds _ _ _ _

theorem clear_staysHere (s : Session) : ∀ x ∈ s.clear.2, x.staysHere = true := by
  intro x hx
  obtain ⟨e, he, rfl⟩ := List.mem_map.1 hx
  rcases List.mem_append.1 he with he | he
  · exact s.document.reset_staysHere e he
  · exact Document.hideMenu_staysHere _ e he

theorem fail_staysHere (e : SessionError) (s : Session) : ∀ x ∈ (s.fail e).2, x.staysHere = true :=
  List.forall_mem_append.2 ⟨s.clear_staysHere, List.forall_mem_singleton.2 rfl⟩

theorem fail_scale (e : SessionError) (s : Session) : (s.fail e).1.document.scale = s.document.scale := by
  have hdocument : (s.fail e).1.document.scale = (emptied s.document).document.scale := rfl
  rw [hdocument, emptied_document]

theorem destination_withCancelled (op : SessionOperation) (s : Session) (cancelled : Bool) :
    op.destination? { s with cancelled } = op.destination? s := by
  cases op <;> rfl

theorem start_withCancelled (t : Destination) (s : Session) (cancelled : Bool) :
    t.start { s with cancelled } = t.start s := by
  cases hmodel : t.model <;> simp only [Destination.start, Destination.document, hmodel] <;> rfl

/-- An operation on its way to a chapter fails as soon as it is called off, and leaves the session cleared. -/
theorem called_off_stops (hopens : op.opens s = true) :
    (∀ hs c x d, (op.chain s).Goes hs c → c.Next x d → x.callsOff = true →
      ∃ s' said e, d = .done s' said (.error e) ∧ s'.Failed said e ∧
        (∀ y ∈ said, y.staysHere = true) ∧ s'.document.scale = c.session.document.scale) ∧
    ∀ (s' : Session) (cancelled : Bool) (later : SessionOperation),
      later.opens { s' with cancelled } = later.opens s' ∧
      (later.opens s' = true → later.chain { s' with cancelled } = later.chain s') := by
  refine ⟨fun hs c x d hgoes hnext hx => ?_, fun s' cancelled later => ?_⟩
  · obtain ⟨t, -, -, hchain⟩ := chain_of_opens hopens
    rw [hchain] at hgoes
    have hheeds : c.Heeds := openChain_heeds (h := []) t.page t.postLoad (t.start s) hs c hgoes
    obtain ⟨e, rfl⟩ := hheeds x d hnext hx
    exact ⟨_, _, e, rfl, fail_failed e _, fail_staysHere e _, fail_scale e _⟩
  · have hsame : later.opens { s' with cancelled } = later.opens s' := by
      rw [opens_eq_destination, opens_eq_destination, destination_withCancelled]
    refine ⟨hsame, fun hlater => ?_⟩
    obtain ⟨t, ht, -, hchain⟩ := chain_of_opens hlater
    have ht' := (destination_withCancelled later s' cancelled).trans ht
    rw [hchain, chain_eq_openChain (hsame.trans hlater) ht', start_withCancelled]

theorem called_off_stops_opened :
    let s := create (Document.create DocumentOptions.standard).document
    let op := SessionOperation.openModel ⟨[⟨"letter", "letter.jrxml", "pt_PT", true, none, 1⟩], none⟩
    let x := Happening.opened ⟨true, .ok (.ack ⟨"7", 595, some 842, Margins.none⟩)⟩
    op.opens s = true ∧ x.callsOff = true ∧
      ∃ s' said e, (op.chain s).Next x (.done s' said (.error e)) ∧ s'.Failed said e ∧
        ∀ y ∈ said, y.staysHere = true := by
  intro s op x
  have hopens : op.opens s = true := rfl
  obtain ⟨d, hnext⟩ : ∃ d, (op.chain s).Next x d := ⟨_, .opened _ _ _ _⟩
  obtain ⟨s', said, e, rfl, hfailed, hsaid, -⟩ :=
    (called_off_stops hopens).1 [] (op.chain s) x d (.refl _) hnext rfl
  exact ⟨hopens, rfl, s', said, e, hnext, hfailed, hsaid⟩

end Session

end BandCanvas
