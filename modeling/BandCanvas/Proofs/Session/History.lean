import BandCanvas.Proofs.Document.Operation
import BandCanvas.Proofs.Session.Course

namespace BandCanvas

/-- Something that happens to a session. -/
inductive Happening where
  | began (op : SessionOperation) (opens : Bool)
  | said (effect : SessionEffect)
  | opened (answer : Answer OpenedDocument)
  | answered (answer : Answer Json)
  | ended (op : SessionOperation) (result : Except SessionError Unit)
  | left (op : SessionOperation)
  | document (op : DocumentOperation)
  | cancelled
  | aborted

namespace Happening

def isUnderWay : Happening → Bool
  | said _ | opened _ | answered _ => true
  | _ => false

def callsOff : Happening → Bool
  | opened a => a.cancelled
  | answered a => a.cancelled
  | _ => false

def sent? : Happening → Option SessionEffect
  | said (.document _) => none
  | said e => some e
  | _ => none

def sent (h : List Happening) : List SessionEffect :=
  h.filterMap sent?

theorem forall_place_snoc {h : List Happening} {x : Happening} {P : List Happening → Happening → Prop}
    (hh : ∀ before y after, h = before ++ y :: after → P before y) (hx : P h x) :
    ∀ before y after, h ++ [x] = before ++ y :: after → P before y := by
  intro before y after heq
  rcases List.eq_nil_or_concat after with rfl | ⟨after, z, rfl⟩
  · obtain ⟨rfl, hlast⟩ := List.append_inj' heq rfl
    obtain rfl := (List.cons.inj hlast).1
    exact hx
  · rw [List.concat_eq_append, ← List.cons_append, ← List.append_assoc] at heq
    exact hh before y after (List.append_inj' heq rfl).1

theorem sent_append (h h' : List Happening) : sent (h ++ h') = sent h ++ sent h' :=
  List.filterMap_append

end Happening

namespace Chain

variable {α : Type}

def session : Chain α → Session
  | .done s _ _ | .awaitOpen s _ _ | .await s _ _ => s

def said : Chain α → List Happening
  | .done _ said _ | .awaitOpen _ said _ | .await _ said _ => said.map .said

def result? : Chain α → Option (Except SessionError α)
  | .done _ _ r => some r
  | _ => none

/-- An operation that waits goes on with an answer. -/
inductive Next : Chain α → Happening → Chain α → Prop
  | opened (s : Session) (said : List SessionEffect) (resume : Answer OpenedDocument → Chain α)
    (a : Answer OpenedDocument) : Next (.awaitOpen s said resume) (.opened a) (resume a)
  | answered (s : Session) (said : List SessionEffect) (resume : Answer Json → Chain α)
    (a : Answer Json) : Next (.await s said resume) (.answered a) (resume a)

/-- What is left of an operation after some answers, and what has happened up to the last of them. -/
inductive Goes : Chain α → List Happening → Chain α → Prop
  | refl (c : Chain α) : Goes c [] c
  | step {c c' d : Chain α} {x : Happening} {hs : List Happening} :
    c.Next x c' → Goes c' hs d → Goes c (c.said ++ x :: hs) d

/-- Wherever an operation comes to, a property holds of it and of all that has happened. -/
def Throughout (P : List Happening → Chain α → Prop) (h : List Happening) (c : Chain α) : Prop :=
  ∀ hs d, c.Goes hs d → P (h ++ hs) d

variable {P Q : List Happening → Chain α → Prop} {h hs : List Happening} {c d : Chain α}
  {s : Session} {request : SessionRequest} {x : Happening}

theorem throughout_of_next (hc : P h c)
    (hnext : ∀ x d, c.Next x d → d.Throughout P (h ++ (c.said ++ [x]))) : c.Throughout P h := by
  intro hs d hgoes
  cases hgoes with
  | refl =>
    rw [List.append_nil]
    exact hc
  | @step _ c' _ x hs hx hrest =>
    have hd := hnext x c' hx hs d hrest
    rw [List.append_assoc, List.append_assoc] at hd
    exact hd

theorem throughout_done {said : List SessionEffect} {r : Except SessionError α}
    (hc : P h (.done s said r)) : (Chain.done s said r).Throughout P h := by
  apply throughout_of_next hc
  intro x d hnext
  cases hnext

theorem throughout_ask {said : List SessionEffect} {resume : Session → Answer Json → Chain α}
    (hc : P h (ask s said request resume))
    (hresume : ∀ a, (resume (s.answered a) a).Throughout P
      (h ++ ((said ++ [SessionEffect.ask request]).map .said ++ [.answered a]))) :
    (ask s said request resume).Throughout P h := by
  apply throughout_of_next hc
  intro x d hnext
  cases hnext with
  | answered _ _ _ a => exact hresume a

theorem Throughout.mono (hc : c.Throughout P h) (hPQ : ∀ hs d, P hs d → Q hs d) :
    c.Throughout Q h :=
  fun hs d hgoes => hPQ _ _ (hc hs d hgoes)

theorem said_underWay (c : Chain α) : ∀ x ∈ c.said, x.isUnderWay = true := by
  have hsaid : ∀ (es : List SessionEffect), ∀ x ∈ es.map Happening.said, x.isUnderWay = true := by
    intro es x hx
    obtain ⟨e, -, rfl⟩ := List.mem_map.1 hx
    rfl
  cases c with
  | done s es r => exact hsaid es
  | awaitOpen s es resume => exact hsaid es
  | await s es resume => exact hsaid es

theorem Next.underWay (hnext : c.Next x d) : x.isUnderWay = true := by
  cases hnext with
  | opened => rfl
  | answered => rfl

theorem Goes.underWay (hgoes : c.Goes hs d) : ∀ x ∈ hs, x.isUnderWay = true := by
  induction hgoes with
  | refl => exact List.forall_mem_nil _
  | @step c c' d x hs hnext hrest ih =>
    intro y hy
    rcases List.mem_append.1 hy with hy | hy
    · exact c.said_underWay y hy
    · rcases List.mem_cons.1 hy with rfl | hy
      · exact hnext.underWay
      · exact ih y hy

theorem Goes.ends {t : Session} {said : List SessionEffect} {r : Except SessionError α}
    (hgoes : c.Goes hs d) (hends : d.Ends t said r) : ∃ said', c.Ends t said' r := by
  induction hgoes with
  | refl => exact ⟨said, hends⟩
  | step hnext hrest ih =>
    obtain ⟨said', hends'⟩ := ih hends
    cases hnext with
    | opened _ _ _ a => exact ⟨_, .opened a hends'⟩
    | answered _ _ _ a => exact ⟨_, .answered a hends'⟩

/-- How an operation is given up, or comes to its end. -/
def conclusion (op : SessionOperation) : Chain Unit → Happening
  | .done _ _ r => .ended op r
  | .awaitOpen .. | .await .. => .left op

end Chain

namespace Session

/-- The sessions of a host, with all that has happened to them. Operations may be left wherever they wait. -/
inductive Run (host : WidgetHost) : List Happening → Session → Prop
  | create (o : DocumentOptions) : Run host [] (create (Document.create o).document)
  | operate {h hs : List Happening} {s : Session} {c : Chain Unit} (op : SessionOperation) :
    Run host h s → (op.chain s).Goes hs c →
    Run host (h ++ .began op (op.opens s) :: (hs ++ c.said ++ [c.conclusion op])) c.session
  | use {h : List Happening} {s : Session} (op : DocumentOperation) : Run host h s →
    Run host (h ++ [.document op]) (s.onDocument (op.run host)).1
  | cancel {h : List Happening} {s : Session} : Run host h s →
    Run host (h ++ [.cancelled]) { s with cancelled := true }
  | abort {h : List Happening} {s : Session} : Run host h s → Run host (h ++ [.aborted]) s.abort.1

theorem mem_of_operation {h hs : List Happening} {op : SessionOperation} {opens : Bool}
    {c d : Chain Unit} {x : Happening} (hgoes : c.Goes hs d)
    (hx : x ∈ h ++ .began op opens :: (hs ++ d.said ++ [d.conclusion op])) :
    x ∈ h ∨ x = .began op opens ∨ x.isUnderWay = true ∨ x = d.conclusion op := by
  rcases List.mem_append.1 hx with hx | hx
  · exact .inl hx
  · rcases List.mem_cons.1 hx with hx | hx
    · exact .inr (.inl hx)
    · rcases List.mem_append.1 hx with hx | hx
      · have hunder := List.forall_mem_append.2 ⟨hgoes.underWay, d.said_underWay⟩ _ hx
        exact .inr (.inr (.inl hunder))
      · exact .inr (.inr (.inr (List.mem_singleton.1 hx)))

theorem document_mem_of_operation {h hs : List Happening} {op : SessionOperation} {opens : Bool}
    {c d : Chain Unit} {o : DocumentOperation} (hgoes : c.Goes hs d)
    (ho : .document o ∈ h ++ .began op opens :: (hs ++ d.said ++ [d.conclusion op])) :
    .document o ∈ h := by
  rcases mem_of_operation hgoes ho with ho | ho | ho | ho
  · exact ho
  · cases ho
  · cases ho
  · cases d <;> cases ho

def widgetless : WidgetHost :=
  ⟨fun _ => none, fun _ _ => .ok (), fun _ box => box⟩

def letters : DocumentModel :=
  let chapter (path : String) : Chapter := ⟨path, "letter.jrxml", "pt_PT", true, none, 2⟩
  ⟨[chapter "first", chapter "second"], none⟩

def letterSession : Session :=
  let d := (Document.create DocumentOptions.standard).document
  { document := { d with editable := true, paging := ⟨some letters, 0, (0, 0), 1, 4, false⟩ }
    lifecycle := .opened
    cancelled := false
    documentId := some "7"
    opened := some ⟨"letter.jrxml", "pt_PT"⟩
    documentScale := some d.scale.toCanvas }

theorem run_letterSession (host : WidgetHost) :
    ∃ h, Run host h letterSession ∧ (∀ o, .document o ∉ h) ∧ ∀ op, .left op ∉ h := by
  have hgoes : Chain.Goes ((SessionOperation.openModel letters).chain
      (create (Document.create DocumentOptions.standard).document)) _ _ :=
    .step (.opened _ _ _ ⟨false, .ok (.ack ⟨"7", 595, some 842, Margins.none⟩)⟩)
      (.step (.answered _ _ _ ⟨false, .ok (.ack .null)⟩) (.refl _))
  have hnew : Run host [] _ := .create DocumentOptions.standard
  refine ⟨_, hnew.operate _ hgoes, fun o ho => ?_, fun op hop => ?_⟩
  · cases document_mem_of_operation hgoes ho
  · rcases mem_of_operation hgoes hop with hop | hop | hop | hop <;> cases hop

theorem run_letters (host : WidgetHost) :
    ∃ h s, Run host h s ∧ (∀ o, .document o ∉ h) ∧ s.lifecycle = .opened ∧ s.documentId = some "7" ∧
      s.opened = some ⟨"letter.jrxml", "pt_PT"⟩ ∧
      s.document.paging = ⟨some letters, 0, (0, 0), 1, 4, false⟩ := by
  obtain ⟨h, hrun, hnone, -⟩ := run_letterSession host
  exact ⟨h, letterSession, hrun, hnone, rfl, rfl, rfl, rfl⟩

end Session

end BandCanvas
