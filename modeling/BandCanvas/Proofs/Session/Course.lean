import BandCanvas.Proofs.Session.Chain

namespace BandCanvas

/-- What a host asks of a session. -/
inductive SessionOperation where
  | openModel (model : DocumentModel)
  | openAndHighlight (model : DocumentModel) (report field : String) (row : Option Nat)
  | gotoPage (page : Nat)
  | nextChapter
  | previousChapter
  | setZoom (zoom : Float)
  | click (x y : Float) (value : Option String)
  | addLine
  | removeLine
  | commitValue (text : String) (direction : Direction)
  | close
  deriving DecidableEq

/-- A chapter to be opened, of a model that is taken first or of the present one. -/
structure Destination where
  model : Option DocumentModel
  chapter : Nat
  page : Int
  postLoad : Option String

namespace Destination

variable (t : Destination) (s : Session)

def document : Document :=
  ((t.model.elim s fun m => s.prepare m).mapPaging (Paging.setChapterIndex t.chapter)).document

def start : Session :=
  { s with document := t.document s, lifecycle := .opening, cancelled := false }

def reach : Chain Unit :=
  if s.lifecycle.canBecome .opening then Session.openChain t.page t.postLoad (t.start s)
  else Chain.stop s (.error .busy)

end Destination

namespace SessionOperation

/-- What an operation does. That there was something to do is not told here. -/
def chain (s : Session) : SessionOperation → Chain Unit
  | openModel model => s.openModel model
  | openAndHighlight model report field row => s.openAndHighlight model report field row
  | gotoPage page => s.gotoPage page
  | nextChapter => s.nextChapter.map fun _ => ()
  | previousChapter => s.previousChapter.map fun _ => ()
  | setZoom zoom => s.setZoom zoom
  | click x y value => s.click x y value
  | addLine => s.addLine.map fun _ => ()
  | removeLine => s.removeLine.map fun _ => ()
  | commitValue text direction => s.commitValue text direction
  | close => s.close

def opens (s : Session) : SessionOperation → Bool
  | openModel _ => s.lifecycle.canBecome .opening
  | openAndHighlight model report _ _ =>
    s.lifecycle.canBecome .opening && (model.chapterOfReport? report).isSome
  | gotoPage page =>
    s.lifecycle.canBecome .opening &&
      (s.document.paging.model.bind fun m => m.locatePage page).any
        fun place => place.1 ≠ s.document.paging.chapterIndex
  | nextChapter =>
    s.lifecycle.canBecome .opening &&
      s.document.paging.chapterIndex + 1 <
        s.document.paging.model.elim 0 fun m => m.chapters.length
  | previousChapter =>
    s.lifecycle.canBecome .opening && 0 < s.document.paging.chapterIndex &&
      s.document.paging.model.isSome
  | _ => false

/-- Where an operation leads to, if it is one that goes to a chapter. -/
def destination? (s : Session) : SessionOperation → Option Destination
  | openModel model => some ⟨some model, 0, 1, none⟩
  | openAndHighlight model report field row =>
    (model.chapterOfReport? report).map fun chapter =>
      ⟨some model, chapter, 1, some (Session.highlightCommand field row)⟩
  | gotoPage page =>
    (s.document.paging.model.bind fun m => m.locatePage page).bind fun place =>
      if place.1 = s.document.paging.chapterIndex then none else some ⟨none, place.1, place.2, none⟩
  | nextChapter =>
    let next := s.document.paging.chapterIndex + 1
    if next < s.document.paging.model.elim 0 fun m => m.chapters.length then
      some ⟨none, next, 1, none⟩
    else none
  | previousChapter =>
    match s.document.paging.chapterIndex, s.document.paging.model with
    | chapter + 1, some _ => some ⟨none, chapter, -1, none⟩
    | _, _ => none
  | _ => none

variable (s : Session) (op : SessionOperation)

theorem opens_eq_destination :
    op.opens s = (s.lifecycle.canBecome .opening && (op.destination? s).isSome) := by
  cases op with
  | openModel model => exact (Bool.and_true _).symm
  | openAndHighlight model report field row =>
    rw [opens, destination?, Option.isSome_map]
  | gotoPage page =>
    rw [opens, destination?]
    cases s.document.paging.model.bind fun m => m.locatePage page with
    | none => rfl
    | some place =>
      by_cases hsame : place.1 = s.document.paging.chapterIndex <;> simp [hsame]
  | nextChapter =>
    rw [opens, destination?]
    split
    next h => rw [decide_eq_true h, Option.isSome_some]
    next h => rw [decide_eq_false h, Option.isSome_none]
  | previousChapter =>
    rw [opens, destination?]
    cases s.document.paging.chapterIndex with
    | zero => simp
    | succ chapter => cases s.document.paging.model <;> simp
  | _ => exact (Bool.and_false _).symm

end SessionOperation

namespace Chain

variable {α β : Type}

theorem map_map_unit (c : Chain Unit) (f : Unit → β) : (c.map f).map (fun _ => ()) = c := by
  induction c with
  | done s said r => cases r <;> rfl
  | awaitOpen s said resume ih => exact congrArg (Chain.awaitOpen s said) (funext ih)
  | await s said resume ih => exact congrArg (Chain.await s said) (funext ih)

end Chain

namespace SessionOperation

variable {s : Session} {op : SessionOperation} {t : Destination}

theorem moveTo_eq_reach (chapter : Nat) (page : Int) (s : Session) :
    ((s.moveTo chapter page).map fun _ => ()) = Destination.reach ⟨none, chapter, page, none⟩ s := by
  rw [Session.moveTo, Destination.reach]
  split
  next hready =>
    rw [Chain.map_map_unit]
    exact if_pos hready
  next => rfl

theorem chain_of_destination (h : op.destination? s = some t) : op.chain s = t.reach s := by
  cases op with
  | openModel model =>
    obtain rfl := Option.some.inj h
    rw [chain, Session.openModel, Destination.reach]
    split
    next hready => exact if_pos hready
    next => rfl
  | openAndHighlight model report field row =>
    obtain ⟨chapter, hchapter, rfl⟩ := Option.map_eq_some_iff.1 h
    rw [chain, Session.openAndHighlight, hchapter, Destination.reach]
    split
    next hready => exact if_pos hready
    next => rfl
  | gotoPage page =>
    obtain ⟨place, hplace, ht⟩ := Option.bind_eq_some_iff.1 h
    split at ht
    next => cases ht
    next hother =>
      obtain rfl := Option.some.inj ht
      rw [chain, Session.gotoPage, hplace, Destination.reach]
      dsimp only
      rw [if_pos hother]
      split
      next hready => exact if_pos hready
      next => rfl
  | nextChapter =>
    rw [destination?] at h
    split at h
    next hnext =>
      obtain rfl := Option.some.inj h
      rw [chain, Session.nextChapter, if_neg (Nat.not_le_of_lt hnext)]
      exact moveTo_eq_reach _ 1 s
    next => cases h
  | previousChapter =>
    cases hindex : s.document.paging.chapterIndex with
    | zero =>
      rw [destination?, hindex] at h
      cases h
    | succ chapter =>
      cases hmodel : s.document.paging.model with
      | none =>
        rw [destination?, hindex, hmodel] at h
        cases h
      | some model =>
        rw [destination?, hindex, hmodel] at h
        obtain rfl := Option.some.inj h
        rw [chain, Session.previousChapter, hindex, hmodel]
        exact moveTo_eq_reach chapter (-1) s
  | _ => cases h

end SessionOperation

def SessionRequest.id : SessionRequest → String
  | .load request => request.id
  | .setScale id _ | .gotoPage id _ | .click id _ _ _ | .close id | .command id _ | .addBand id _ _
  | .deleteBand id _ _ | .setText id _ _ => id

def SessionRequest.scale? : SessionRequest → Option (String × Float)
  | .load request => some (request.id, request.scale)
  | .setScale id scale => some (id, scale)
  | _ => none

/-- Whether a request leaves the session at its stage while it is answered. -/
def SessionRequest.isAside : SessionRequest → Bool
  | .setScale .. | .click .. | .addBand .. | .deleteBand .. | .setText .. => true
  | .load _ | .gotoPage .. | .close _ | .command .. => false

def Answer.outcome (a : Answer Json) : Except SessionError Unit :=
  match a.reply with
  | .error cause => .error (.transport cause)
  | .ok (.errors messages) => .error (.protocol messages)
  | .ok (.ack _) => .ok ()

namespace Chain

variable {α β γ : Type} {s : Session} {said : List SessionEffect} {request : SessionRequest}

/-- Sends a request. The operation goes on if the answer is taken, and fails if it is not. -/
def attempt (s : Session) (said : List SessionEffect) (request : SessionRequest)
    (verdict : Session → Answer Json → Except SessionError β) (next : Session → Chain α) : Chain α :=
  ask s said request fun s a =>
    match verdict s a with
    | .error e => failed s [] e
    | .ok _ => next s

theorem settle_eq_attempt (next : Session → Chain α) :
    settle s said request next = attempt s said request (fun _ a => a.outcome) next := by
  refine congrArg (ask s said request) (funext fun s => funext fun a => ?_)
  dsimp only
  rw [Answer.outcome]
  cases a.reply with
  | error cause => rfl
  | ok reply => cases reply <;> rfl

theorem map_attempt (verdict : Session → Answer Json → Except SessionError γ)
    (next : Session → Chain α) (f : α → β) :
    (attempt s said request verdict next).map f =
      attempt s said request verdict fun s => (next s).map f := by
  refine congrArg (Chain.await s _) (funext fun a => ?_)
  dsimp only
  cases verdict (s.answered a) a <;> rfl

theorem map_settle (next : Session → Chain α) (f : α → β) :
    (settle s said request next).map f = settle s said request fun s => (next s).map f := by
  rw [settle_eq_attempt, settle_eq_attempt, map_attempt]

end Chain

namespace SessionOperation

open Chain Session

def turns (s : Session) : SessionOperation → Bool
  | gotoPage page =>
    s.lifecycle.canBecome .navigating &&
      (s.document.paging.model.bind fun m => m.locatePage page).any fun place =>
        place.1 = s.document.paging.chapterIndex && s.document.paging.chapterPage.1 ≠ place.2
  | _ => false

def closes (s : Session) : SessionOperation → Bool
  | close => s.lifecycle.canBecome .closing
  | _ => false

/-- The stage that a session enters when an operation begins, if it leaves its own. -/
def enters (s : Session) (op : SessionOperation) : Option Lifecycle :=
  if op.opens s then some .opening
  else if op.turns s then some .navigating
  else if op.closes s then some .closing
  else none

/-- The ways in which an operation can go, after it has brought the session to a stage. -/
inductive Course (s : Session) (op : SessionOperation) : Option Lifecycle → Chain Unit → Prop
  | opens {t : Destination} (ht : op.destination? s = some t)
    (hready : s.lifecycle.canBecome .opening = true) :
    Course s op (some .opening) (openChain t.page t.postLoad (t.start s))
  | turns {id : String} (page : Nat) (hturns : op.turns s = true) (hid : s.documentId = some id) :
    Course s op (some .navigating)
      (settle { s with lifecycle := .navigating, document := { s.document with viewport := none } } []
        (.gotoPage id page) fun s => .done { s with lifecycle := .opened } [] (.ok ()))
  | strays (hturns : op.turns s = true) (hid : s.documentId = none) :
    Course s op (some .navigating) (stop { s with lifecycle := .navigating } (.error noDocument))
  | closes {id : String} (hcloses : op.closes s = true) (hid : s.documentId = some id) :
    Course s op (some .closing)
      (ask { s with lifecycle := .closing } [] (.close id) fun s a => finishClose a.outcome s)
  | forgets (hcloses : op.closes s = true) (hid : s.documentId = none) :
    Course s op (some .closing) (finishClose (.ok ()) { s with lifecycle := .closing })
  | zooms {id : String} (zoom scale : Float) (hstage : s.lifecycle = .opened)
    (hid : s.documentId = some id) (hop : op = setZoom zoom)
    (hchanged : (s.document.setZoom zoom).1 = some scale)
    (hother : s.documentScale.any (· == scale) = false) :
    Course s op none
      (settle { s with document := (s.document.setZoom zoom).2.document }
        ((s.document.setZoom zoom).2.effects.map .document) (.setScale id scale)
        fun s => .done { s with documentScale := some scale } [] (.ok ()))
  | resizes (zoom : Float) (hknown : ∀ scale, (s.document.setZoom zoom).1 = some scale →
      s.documentId = none ∨ s.documentScale.any (· == scale) = true ∨ s.lifecycle ≠ .opened) :
    Course s op none
      (.done { s with document := (s.document.setZoom zoom).2.document }
        ((s.document.setZoom zoom).2.effects.map .document) (.ok ()))
  | asks {request : SessionRequest} (haside : request.isAside = true)
    (hid : s.documentId = some request.id) (hscale : request.scale? = none)
    (hop : ∀ zoom, op ≠ setZoom zoom) :
    Course s op none (settle s [] request fun s => stop s (.ok ()))
  | stops (r : Except SessionError Unit) : Course s op none (stop s r)

variable (s : Session)

theorem onMenuBand_course (op : SessionOperation) (request : String → Band → SessionRequest)
    (haside : ∀ id b, (request id b).isAside = true) (hid : ∀ id b, (request id b).id = id)
    (hscale : ∀ id b, (request id b).scale? = none) (hop : ∀ zoom, op ≠ setZoom zoom) :
    Course s op none ((s.onMenuBand request).map fun _ => ()) := by
  rw [onMenuBand]
  split
  next => exact .stops _
  next band _ =>
    split
    next => exact .stops _
    next id hsome =>
      rw [map_settle]
      exact .asks (haside id band) (by rw [hsome, hid]) (hscale id band) hop

variable {s}

theorem ready_of_turns {op : SessionOperation} (h : op.turns s = true) :
    s.lifecycle.canBecome .navigating = true := by
  cases op with
  | gotoPage page => exact (Bool.and_eq_true_iff.1 h).1
  | _ => cases h

theorem opened_of_turns {op : SessionOperation} (h : op.turns s = true) : s.lifecycle = .opened := by
  have hready := ready_of_turns h
  cases hstage : s.lifecycle with
  | opened => rfl
  | _ =>
    rw [hstage] at hready
    cases hready

theorem ready_of_closes {op : SessionOperation} (h : op.closes s = true) :
    op = close ∧ s.lifecycle.canBecome .closing = true := by
  cases op with
  | close => exact ⟨rfl, h⟩
  | _ => cases h

theorem turns_of_destination {op : SessionOperation} {t : Destination}
    (h : op.destination? s = some t) : op.turns s = false := by
  cases op with
  | gotoPage page =>
    obtain ⟨place, hplace, ht⟩ := Option.bind_eq_some_iff.1 h
    split at ht
    next => cases ht
    next hother =>
      rw [turns, hplace, Option.any_some, decide_eq_false hother, Bool.false_and, Bool.and_false]
  | _ => rfl

theorem closes_of_destination {op : SessionOperation} {t : Destination}
    (h : op.destination? s = some t) : op.closes s = false := by
  cases op with
  | close => cases h
  | _ => rfl

theorem enters_of_opens_eq_false {op : SessionOperation} (h : op.opens s = false) :
    op.enters s =
      if op.turns s then some .navigating else if op.closes s then some .closing else none := by
  rw [enters, h]
  rfl

theorem enters_eq_none {op : SessionOperation} (hopens : op.opens s = false) (hturns : op.turns s = false)
    (hcloses : op.closes s = false) : op.enters s = none := by
  rw [enters_of_opens_eq_false hopens, hturns, hcloses]
  rfl

theorem turnPage_course {page chapterPage : Nat}
    (hplace : (s.document.paging.model.bind fun m => m.locatePage page) =
      some (s.document.paging.chapterIndex, chapterPage))
    (hother : s.document.paging.chapterPage.1 ≠ chapterPage) (hopens : (gotoPage page).opens s = false) :
    Course s (gotoPage page) ((gotoPage page).enters s) (s.turnPage chapterPage) := by
  have hturns : (gotoPage page).turns s = s.lifecycle.canBecome .navigating := by
    rw [turns, hplace]
    simp [hother]
  rw [enters_of_opens_eq_false hopens, hturns, turnPage]
  split
  next hready =>
    dsimp only
    rw [hready] at hturns
    split
    next hid => exact .strays hturns hid
    next id hid => exact .turns chapterPage hturns hid
  next => exact .stops _

theorem gotoPage_course {page : Nat} (hnone : (gotoPage page).destination? s = none)
    (hopens : (gotoPage page).opens s = false) :
    Course s (gotoPage page) ((gotoPage page).enters s) (s.gotoPage page) := by
  rw [destination?] at hnone
  rw [Session.gotoPage]
  cases hplace : s.document.paging.model.bind fun m => m.locatePage page with
  | none =>
    rw [enters_of_opens_eq_false hopens, turns, hplace, Option.any_none, Bool.and_false]
    exact .stops _
  | some place =>
    obtain ⟨chapter, chapterPage⟩ := place
    by_cases hsame : chapter = s.document.paging.chapterIndex
    · obtain rfl := hsame
      dsimp only
      rw [if_neg (not_not_intro rfl)]
      split
      next hshown =>
        rw [enters_of_opens_eq_false hopens, turns, hplace, Option.any_some]
        simp only [hshown, ne_eq, not_true, decide_false, Bool.and_false]
        exact .stops _
      next hother => exact turnPage_course hplace hother hopens
    · simp [hplace, hsame] at hnone

theorem answered_close (s : Session) (a : Answer Json) :
    (match a.reply with
      | .error cause => finishClose (.error (.transport cause)) s
      | .ok (.errors messages) => finishClose (.error (.protocol messages)) s
      | .ok (.ack _) => finishClose (.ok ()) s) = finishClose a.outcome s := by
  rw [Answer.outcome]
  cases a.reply with
  | error cause => rfl
  | ok reply => cases reply <;> rfl

theorem close_course : Course s close (close.enters s) s.close := by
  rw [enters, Session.close]
  show Course s close (if s.lifecycle.canBecome .closing = true then some .closing else none) _
  split
  next hready =>
    dsimp only
    split
    next hid => exact .forgets hready hid
    next id hid =>
      have hresume := congrArg (ask { s with lifecycle := .closing } [] (.close id))
        (funext fun s => funext (answered_close s))
      exact hresume ▸ .closes hready hid
  next => exact .stops _

theorem setZoom_known {zoom : Float} (hknown : ∀ scale, (s.document.setZoom zoom).1 = some scale →
    s.documentId = none ∨ s.documentScale.any (· == scale) = true ∨ s.lifecycle ≠ .opened) :
    s.setZoom zoom = .done { s with document := (s.document.setZoom zoom).2.document }
      ((s.document.setZoom zoom).2.effects.map .document) (.ok ()) := by
  rw [Session.setZoom]
  dsimp only
  split
  next scale id hchanged hid =>
    apply if_pos
    rcases hknown scale hchanged with hnone | hsame | hclosed
    · cases hnone.symm.trans hid
    · exact Bool.or_eq_true_iff.2 (.inl hsame)
    · exact Bool.or_eq_true_iff.2 (.inr (decide_eq_true hclosed))
  next => rfl

theorem setZoom_asks {zoom scale : Float} {id : String} (hstage : s.lifecycle = .opened)
    (hid : s.documentId = some id) (hchanged : (s.document.setZoom zoom).1 = some scale)
    (hother : s.documentScale.any (· == scale) = false) :
    s.setZoom zoom = settle { s with document := (s.document.setZoom zoom).2.document }
      ((s.document.setZoom zoom).2.effects.map .document) (.setScale id scale)
      fun s => .done { s with documentScale := some scale } [] (.ok ()) := by
  rw [Session.setZoom]
  dsimp only
  rw [hchanged, hid]
  apply if_neg
  rw [hother, hstage]
  decide

theorem setZoom_course (zoom : Float) : Course s (setZoom zoom) none (s.setZoom zoom) := by
  by_cases hknown : ∀ scale, (s.document.setZoom zoom).1 = some scale →
      s.documentId = none ∨ s.documentScale.any (· == scale) = true ∨ s.lifecycle ≠ .opened
  · rw [setZoom_known hknown]
    exact .resizes zoom hknown
  · simp only [Classical.not_forall, not_or, Bool.not_eq_true, Decidable.not_not] at hknown
    obtain ⟨scale, hchanged, hsome, hother, hstage⟩ := hknown
    obtain ⟨id, hid⟩ := Option.ne_none_iff_exists'.1 hsome
    rw [setZoom_asks hstage hid hchanged hother]
    exact .zooms zoom scale hstage hid rfl hchanged hother

theorem click_course (x y : Float) (value : Option String) :
    Course s (click x y value) none (s.click x y value) := by
  rw [Session.click]
  split
  next => exact .stops _
  next =>
    split
    next => exact .stops _
    next id hid => exact .asks rfl hid rfl fun _ h => nomatch h

theorem commitValue_course (text : String) (direction : Direction) :
    Course s (commitValue text direction) none (s.commitValue text direction) := by
  rw [Session.commitValue]
  split
  next => exact .stops _
  next id hid => exact .asks rfl hid rfl fun _ h => nomatch h

theorem chain_of_opens {op : SessionOperation} (h : op.opens s = true) :
    ∃ t, op.destination? s = some t ∧ s.lifecycle.canBecome .opening = true ∧
      op.chain s = openChain t.page t.postLoad (t.start s) := by
  rw [opens_eq_destination] at h
  obtain ⟨hready, hsome⟩ := Bool.and_eq_true_iff.1 h
  obtain ⟨t, ht⟩ := Option.isSome_iff_exists.1 hsome
  refine ⟨t, ht, hready, ?_⟩
  rw [chain_of_destination ht]
  exact if_pos hready

theorem chain_eq_openChain {op : SessionOperation} {t : Destination} (hopens : op.opens s = true)
    (ht : op.destination? s = some t) : op.chain s = openChain t.page t.postLoad (t.start s) := by
  obtain ⟨t', ht', -, hchain⟩ := chain_of_opens hopens
  obtain rfl := Option.some.inj (ht'.symm.trans ht)
  exact hchain

/-- Every operation goes in one of these ways. -/
theorem chain_course (s : Session) (op : SessionOperation) :
    Course s op (op.enters s) (op.chain s) := by
  cases hdestination : op.destination? s with
  | some t =>
    have hopens : op.opens s = s.lifecycle.canBecome .opening := by
      rw [opens_eq_destination, hdestination, Option.isSome_some, Bool.and_true]
    rw [chain_of_destination hdestination, Destination.reach]
    split
    next hready =>
      rw [enters, hopens, if_pos hready]
      exact .opens hdestination hready
    next hbusy =>
      rw [enters_eq_none (hopens.trans (Bool.eq_false_iff.2 hbusy)) (turns_of_destination hdestination)
        (closes_of_destination hdestination)]
      exact .stops _
  | none =>
    have hopens : op.opens s = false := by
      rw [opens_eq_destination, hdestination]
      exact Bool.and_false _
    cases op with
    | openModel model => cases hdestination
    | openAndHighlight model report field row =>
      rw [chain, Session.openAndHighlight, Option.map_eq_none_iff.1 hdestination,
        enters_eq_none hopens rfl rfl]
      split
      · exact .stops _
      · exact .stops _
    | gotoPage page => exact gotoPage_course hdestination hopens
    | nextChapter =>
      rw [destination?] at hdestination
      split at hdestination
      next => cases hdestination
      next hlast =>
        rw [chain, Session.nextChapter, if_pos (Nat.le_of_not_lt hlast), enters_eq_none hopens rfl rfl]
        exact .stops _
    | previousChapter =>
      rw [chain, Session.previousChapter, enters_eq_none hopens rfl rfl]
      cases hindex : s.document.paging.chapterIndex with
      | zero => exact .stops _
      | succ chapter =>
        cases hmodel : s.document.paging.model with
        | none => exact .stops _
        | some model =>
          rw [destination?, hindex, hmodel] at hdestination
          cases hdestination
    | setZoom zoom => exact setZoom_course zoom
    | click x y value => exact click_course x y value
    | addLine =>
      exact onMenuBand_course s addLine _ (fun _ _ => rfl) (fun _ _ => rfl) (fun _ _ => rfl)
        fun _ h => nomatch h
    | removeLine =>
      exact onMenuBand_course s removeLine _ (fun _ _ => rfl) (fun _ _ => rfl) (fun _ _ => rfl)
        fun _ h => nomatch h
    | commitValue text direction => exact commitValue_course text direction
    | close => exact close_course

end SessionOperation

end BandCanvas
