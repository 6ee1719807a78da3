import BandCanvas.Proofs.Session.Opening

namespace BandCanvas

@[simp]
def SessionEffect.isOut : SessionEffect → Bool
  | .document _ => false
  | _ => true

@[simp]
theorem SessionEffect.filter_isOut_document (es : List Effect) :
    (es.map SessionEffect.document).filter SessionEffect.isOut = [] := by
  apply List.filter_eq_nil_iff.2
  intro x hx
  obtain ⟨e, -, rfl⟩ := List.mem_map.1 hx
  exact Bool.false_ne_true

namespace Happening

variable {h : List Happening}

attribute [simp] sent_append

@[simp]
theorem sent_nil : sent [] = [] :=
  rfl

@[simp]
theorem sent_said (said : List SessionEffect) :
    sent (said.map .said) = said.filter SessionEffect.isOut := by
  induction said with
  | nil => rfl
  | cons e said ih =>
    cases e with
    | document e => exact ih
    | _ => exact congrArg (List.cons _) ih

end Happening

namespace Chain

open Happening

variable {α β : Type} {h : List Happening} {s : Session} {said : List SessionEffect}

@[simp]
theorem sent_asking (said : List SessionEffect) {request : SessionEffect} {x : Happening}
    (hx : x.sent? = none) :
    sent (asking said request x) = (said ++ [request]).filter SessionEffect.isOut := by
  have hlast : sent [x] = [] := List.filterMap_cons_none hx
  rw [asking, sent_append, sent_said, hlast, List.append_nil]

@[simp]
theorem said_done (s : Session) (said : List SessionEffect) (r : Except SessionError α) :
    (Chain.done s said r).said = said.map .said :=
  rfl

@[simp]
theorem said_attempt (request : SessionRequest)
    (verdict : Session → Answer Json → Except SessionError β) (next : Session → Chain α) :
    (attempt s said request verdict next).said = (said ++ [SessionEffect.ask request]).map .said :=
  rfl

@[simp]
theorem said_attemptOpen (chapter : Chapter) (next : Session → OpenedDocument → Chain Unit) :
    (attemptOpen s said chapter next).said = (said ++ [SessionEffect.openDocument chapter]).map .said :=
  rfl

@[simp]
theorem said_failed (s : Session) (e : SessionError) :
    (failed s [] e : Chain α).said = (s.fail e).2.map .said :=
  rfl

end Chain

namespace Session

open Chain Happening SessionEffect

@[simp]
theorem filter_isOut_fail (e : SessionError) (s : Session) :
    (s.fail e).2.filter SessionEffect.isOut = [] := by
  simp [fail, clear, onDocument]

@[simp]
theorem filter_isOut_blank (s : Session) : s.blank.2.filter SessionEffect.isOut = [] := by
  simp [blank, onDocument]

@[simp]
theorem filter_isOut_takeOpened (report : OpenedReport) (o : OpenedDocument) (s : Session) :
    (s.takeOpened report o).2.filter SessionEffect.isOut = [.register o.id] := by
  have hconfigured := filter_isOut_document
    (s.document.configurePage o.width
      ((o.height.filter fun h => h.isFinite && h ≥ 0).getD continuousHeight) o.margins.right).effects
  exact congrArg (SessionEffect.register o.id :: ·) hconfigured

@[simp]
theorem filter_isOut_showChapter (chapter : Chapter) (scale : Float) (s : Session) :
    (s.showChapter chapter scale).2.filter SessionEffect.isOut = [] := by
  simp [showChapter, onDocument]

variable {h : List Happening} {s : Session} {said out : List SessionEffect}

def loading (request : LoadRequest) (postLoad : Option String) : List SessionEffect :=
  .ask (.load request) :: (postLoad.map fun text => .ask (.command request.id text)).toList

/-- The load has gone out, and nothing after it but the command. -/
inductive Loads (out : List SessionEffect) (request : LoadRequest) (postLoad : Option String) :
    List SessionEffect → Prop
  | load : Loads out request postLoad (out ++ [.ask (.load request)])
  | all : Loads out request postLoad (out ++ loading request postLoad)

theorem Loads.isPrefix {request : LoadRequest} {postLoad : Option String} {sent : List SessionEffect}
    (h : Loads out request postLoad sent) : sent <+: out ++ loading request postLoad := by
  cases h with
  | load => exact (List.prefix_append_right_inj out).2 ⟨_, rfl⟩
  | all => exact List.prefix_refl _

theorem Loads.load_mem {request : LoadRequest} {postLoad : Option String} {sent : List SessionEffect}
    (h : Loads out request postLoad sent) : .ask (.load request) ∈ sent := by
  cases h with
  | load => exact List.mem_append_right out List.mem_cons_self
  | all => exact List.mem_append_right out List.mem_cons_self

theorem arrive_loads (chapter : Chapter) (scale : Float) (postLoad : Option String) {request : LoadRequest}
    (hsent : sent h = out ++ [.ask (.load request)]) :
    (arrive chapter scale postLoad request.id s).Throughout
      (fun h c => Loads out request postLoad (sent (h ++ c.said))) h := by
  cases postLoad with
  | none =>
    rw [arrive_none]
    apply throughout_done
    rw [said_done, sent_append, hsent, sent_said, filter_isOut_showChapter, List.append_nil]
    exact .load
  | some text =>
    have hall : ∀ a, sent (h ++ asking (s.showChapter chapter scale).2 (.ask (.command request.id text))
        (.answered a)) = out ++ loading request (some text) := by
      intro a
      rw [sent_append, sent_asking _ rfl, hsent, List.filter_append, filter_isOut_showChapter,
        List.append_assoc]
      rfl
    rw [arrive_some]
    apply throughout_attempt
    · rw [said_attempt, sent_append, hsent, sent_said, List.filter_append, filter_isOut_showChapter,
        List.append_assoc]
      exact .all
    · intro a e _
      rw [said_failed, sent_append, hall, sent_said, filter_isOut_fail, List.append_nil]
      exact .all
    · intro a value _
      apply throughout_done
      rw [said_done, sent_append, hall, List.map_nil, sent_nil, List.append_nil]
      exact .all

theorem load_loads (chapter : Chapter) (page : Int) (postLoad : Option String) (id : String)
    (hsent : sent h ++ said.filter isOut = out) :
    (load chapter page postLoad id s said).Throughout
      (fun h c => Loads out (s.loadRequest chapter page id) postLoad (sent (h ++ c.said))) h := by
  have hloaded : ∀ a, sent (h ++ asking said (.ask (.load (s.loadRequest chapter page id))) (.answered a)) =
      out ++ [.ask (.load (s.loadRequest chapter page id))] := by
    intro a
    rw [sent_append, sent_asking said rfl, List.filter_append, ← List.append_assoc, hsent]
    rfl
  apply throughout_attempt
  · rw [said_attempt, sent_append, sent_said, List.filter_append, ← List.append_assoc, hsent]
    exact .load
  · intro a e _
    rw [said_failed, sent_append, hloaded, sent_said, filter_isOut_fail, List.append_nil]
    exact .load
  · intro a value _
    exact arrive_loads chapter _ postLoad (hloaded a)

/-- What has gone out on the way to a chapter, which does not end well before the chapter was asked for. -/
def Approaches (chapter : Chapter) (page : Int) (postLoad : Option String) (isOpen : Prop)
    (result : Option (Except SessionError Unit)) (sent : List SessionEffect) : Prop :=
  ∃ (opening : List SessionEffect) (request : LoadRequest),
    (opening = [] ∨ opening = [.openDocument chapter, .register request.id]) ∧ (opening = [] ↔ isOpen) ∧
    request.path = chapter.path ∧ request.page = (if page = 0 then 1 else page) ∧
    sent ≠ [] ∧ sent <+: opening ++ loading request postLoad ∧
    (result = some (.ok ()) → .ask (.load request) ∈ sent)

theorem approaches_opening {page : Int} {postLoad : Option String} {isOpen : Prop}
    {result : Option (Except SessionError Unit)} (s : Session) (chapter : Chapter) (hopen : ¬isOpen)
    (hresult : result ≠ some (.ok ())) :
    Approaches chapter page postLoad isOpen result [.openDocument chapter] :=
  ⟨_, s.loadRequest chapter (if page = 0 then 1 else page) "", .inr rfl,
    iff_of_false (List.cons_ne_nil _ _) hopen, rfl, rfl, List.cons_ne_nil _ _, ⟨_, rfl⟩,
    fun hok => absurd hok hresult⟩

theorem openChain_approaches {chapter : Chapter} (page : Int) (postLoad : Option String)
    (hchapter : s.document.paging.chapter? = some chapter) :
    (openChain page postLoad s).Throughout
      (fun h c => Approaches chapter page postLoad
        (s.opened = some chapter.source ∧ s.documentId.isSome = true) c.result? (sent (h ++ c.said))) [] := by
  by_cases hsame : s.opened = some chapter.source ∧ s.documentId.isSome = true
  · obtain ⟨id, hid⟩ := Option.isSome_iff_exists.1 hsame.2
    rw [openChain_stays page postLoad hchapter hsame.1 hid]
    have hblank : sent [] ++ s.blank.2.filter isOut = [] := filter_isOut_blank s
    refine (load_loads chapter _ postLoad id hblank).mono fun h c hloads => ?_
    exact ⟨[], _, .inl rfl, iff_of_true rfl hsame, rfl, rfl, List.ne_nil_of_mem hloads.load_mem,
      hloads.isPrefix, fun _ => hloads.load_mem⟩
  · have hasked : ∀ a, sent ([] ++ asking s.blank.2 (.openDocument chapter) (.opened a)) =
        [.openDocument chapter] := by
      intro a
      rw [List.nil_append, sent_asking _ rfl, List.filter_append, filter_isOut_blank]
      rfl
    rw [openChain_opens page postLoad hchapter hsame]
    apply throughout_attemptOpen
    · rw [List.nil_append, said_attemptOpen, sent_said, List.filter_append, filter_isOut_blank]
      exact approaches_opening s chapter hsame fun h => nomatch h
    · intro a e _
      rw [said_failed, sent_append, hasked, sent_said, filter_isOut_fail]
      exact approaches_opening s chapter hsame fun h => nomatch h
    · intro a o _
      have hregistered : sent ([] ++ asking s.blank.2 (.openDocument chapter) (.opened a)) ++
          ((s.blank.1.answered a).takeOpened chapter.source o).2.filter isOut =
          [.openDocument chapter, .register o.id] := by
        rw [hasked, filter_isOut_takeOpened]
        rfl
      refine (load_loads chapter _ postLoad o.id hregistered).mono fun h c hloads => ?_
      let opened := ((s.blank.1.answered a).takeOpened chapter.source o).1
      exact ⟨_, opened.loadRequest chapter _ o.id, .inr rfl, iff_of_false (List.cons_ne_nil _ _) hsame,
        rfl, rfl, List.ne_nil_of_mem hloads.load_mem, hloads.isPrefix, fun _ => hloads.load_mem⟩

theorem openChain_sends_nothing (page : Int) (postLoad : Option String)
    (hchapter : s.document.paging.chapter? = none) :
    (openChain page postLoad s).Throughout (fun h c => sent (h ++ c.said) = []) [] := by
  have hway := openChain_way page postLoad s
  generalize openChain page postLoad s = c at hway ⊢
  cases hway with
  | nowhere _ =>
    apply throughout_done
    rw [List.nil_append]
    exact (sent_said _).trans (filter_isOut_fail _ s)
  | stays hsome => rw [hchapter] at hsome; cases hsome
  | opens hsome => rw [hchapter] at hsome; cases hsome

end Session

end BandCanvas
