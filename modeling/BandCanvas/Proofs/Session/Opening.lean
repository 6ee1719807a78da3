import BandCanvas.Proofs.Session.History

namespace BandCanvas

namespace Answer

variable {α : Type}

def taken (a : Answer α) (s : Session) : Except SessionError α :=
  match a.reply with
  | .error cause => .error (.transport cause)
  | .ok reply =>
    if s.cancelled then .error .cancelled
    else
      match reply with
      | .errors messages => .error (.protocol messages)
      | .ack value => .ok value

def heeded (a : Answer Json) (s : Session) : Except SessionError Unit :=
  if s.cancelled then .error .cancelled else a.outcome

variable {s : Session}

theorem taken_of_cancelled (a : Answer α) (h : s.cancelled = true) : ∃ e, a.taken s = .error e := by
  rw [taken]
  cases a.reply with
  | error cause => exact ⟨_, rfl⟩
  | ok reply => exact ⟨_, if_pos h⟩

theorem heeded_of_cancelled (a : Answer Json) (h : s.cancelled = true) : ∃ e, a.heeded s = .error e :=
  ⟨_, if_pos h⟩

theorem reply_of_taken {a : Answer α} {value : α} (h : a.taken s = .ok value) :
    s.cancelled = false ∧ a.reply = .ok (.ack value) := by
  rw [taken] at h
  split at h
  next => cases h
  next reply hreply =>
    split at h
    next => cases h
    next hcancelled =>
      cases reply with
      | errors messages => cases h
      | ack _ =>
        obtain rfl := Except.ok.inj h
        exact ⟨Bool.eq_false_iff.2 hcancelled, hreply⟩

end Answer

def Chapter.source (c : Chapter) : OpenedReport :=
  ⟨c.report, c.locale⟩

namespace Chain

def attemptOpen (s : Session) (said : List SessionEffect) (chapter : Chapter)
    (next : Session → OpenedDocument → Chain Unit) : Chain Unit :=
  .awaitOpen s (said ++ [.openDocument chapter]) fun a =>
    match a.taken (s.answered a) with
    | .error e => failed (s.answered a) [] e
    | .ok o => next (s.answered a) o

end Chain

namespace Session

open Chain

def blank (s : Session) : Session × List SessionEffect :=
  (s.mapPaging (Paging.setLoading true)).onDocument fun d =>
    (d.setEditable false).update fun d => { d with viewport := none }

def loadRequest (chapter : Chapter) (page : Int) (id : String) (s : Session) : LoadRequest :=
  ⟨id, chapter.editable, chapter.path, s.document.scale.toCanvas,
    if !chapter.editable then .nowhere else if 0 < page then .first else .last, page⟩

def arrive (chapter : Chapter) (scale : Float) (postLoad : Option String) (id : String) (s : Session) :
    Chain Unit :=
  let shown := s.showChapter chapter scale
  match postLoad with
  | none => .done { shown.1 with lifecycle := .opened } shown.2 (.ok ())
  | some text =>
    attempt shown.1 shown.2 (.command id text) (fun s a => a.heeded s) fun s =>
      .done { s with lifecycle := .opened } [] (.ok ())

def load (chapter : Chapter) (page : Int) (postLoad : Option String) (id : String) (s : Session)
    (said : List SessionEffect) : Chain Unit :=
  attempt s said (.load (s.loadRequest chapter page id)) (fun s a => a.taken s)
    (arrive chapter s.document.scale.toCanvas postLoad id)

variable {s : Session} {said : List SessionEffect}

theorem arrive_none (chapter : Chapter) (scale : Float) (id : String) (s : Session) :
    arrive chapter scale none id s =
      .done { (s.showChapter chapter scale).1 with lifecycle := .opened }
        (s.showChapter chapter scale).2 (.ok ()) :=
  rfl

theorem arrive_some (chapter : Chapter) (scale : Float) (text id : String) (s : Session) :
    arrive chapter scale (some text) id s =
      attempt (s.showChapter chapter scale).1 (s.showChapter chapter scale).2 (.command id text)
        (fun s a => a.heeded s) fun s => .done { s with lifecycle := .opened } [] (.ok ()) :=
  rfl

theorem sendCommand_eq_attempt (id text : String) :
    sendCommand id text s said =
      attempt s said (.command id text) (fun s a => a.heeded s) fun s =>
        .done { s with lifecycle := .opened } [] (.ok ()) := by
  refine congrArg (ask s said _) (funext fun s => funext fun a => ?_)
  dsimp only
  rw [Answer.heeded, Answer.outcome]
  split
  · rfl
  · cases a.reply with
    | error cause => rfl
    | ok reply => cases reply <;> rfl

theorem loadChapter_eq_load {id : String} (chapter : Chapter) (page : Int) (postLoad : Option String)
    (hid : s.documentId = some id) :
    loadChapter chapter page postLoad s said = load chapter page postLoad id s said := by
  rw [loadChapter, hid, load, attempt]
  dsimp only
  refine congrArg (ask s said (.load (s.loadRequest chapter page id)))
    (funext fun s => funext fun a => ?_)
  rw [Answer.taken]
  cases a.reply with
  | error cause => rfl
  | ok reply =>
    dsimp only
    split
    · rfl
    · cases reply with
      | errors messages => rfl
      | ack value =>
        cases postLoad with
        | none => rfl
        | some text => exact sendCommand_eq_attempt id text

theorem openChain_stays {chapter : Chapter} {id : String} (page : Int) (postLoad : Option String)
    (hchapter : s.document.paging.chapter? = some chapter) (hopened : s.opened = some chapter.source)
    (hid : s.documentId = some id) :
    openChain page postLoad s =
      load chapter (if page = 0 then 1 else page) postLoad id s.blank.1 s.blank.2 := by
  have hsome : s.documentId.isSome = true := by
    rw [hid]
    rfl
  rw [openChain, hchapter]
  dsimp only
  exact (if_pos ⟨hopened, hsome⟩).trans (loadChapter_eq_load chapter _ postLoad hid)

theorem openChain_opens {chapter : Chapter} (page : Int) (postLoad : Option String)
    (hchapter : s.document.paging.chapter? = some chapter)
    (hother : ¬(s.opened = some chapter.source ∧ s.documentId.isSome = true)) :
    openChain page postLoad s = attemptOpen s.blank.1 s.blank.2 chapter fun s o =>
      load chapter (if page = 0 then 1 else page) postLoad o.id
        (s.takeOpened chapter.source o).1 (s.takeOpened chapter.source o).2 := by
  rw [openChain, hchapter]
  dsimp only
  rw [← blank]
  refine (if_neg hother).trans (congrArg (Chain.awaitOpen s.blank.1 _) (funext fun a => ?_))
  dsimp only
  rw [Answer.taken]
  cases a.reply with
  | error cause => rfl
  | ok reply =>
    dsimp only
    split
    · rfl
    · cases reply with
      | errors messages => rfl
      | ack o => exact loadChapter_eq_load chapter _ postLoad rfl

inductive Way (page : Int) (postLoad : Option String) (s : Session) : Chain Unit → Prop
  | nowhere (hchapter : s.document.paging.chapter? = none) :
    Way page postLoad s (failed s [] (.protocol ["document has no chapters"]))
  | stays {chapter : Chapter} {id : String} (hchapter : s.document.paging.chapter? = some chapter)
    (hopened : s.opened = some chapter.source) (hid : s.documentId = some id) :
    Way page postLoad s
      (load chapter (if page = 0 then 1 else page) postLoad id s.blank.1 s.blank.2)
  | opens {chapter : Chapter} (hchapter : s.document.paging.chapter? = some chapter)
    (hother : ¬(s.opened = some chapter.source ∧ s.documentId.isSome = true)) :
    Way page postLoad s (attemptOpen s.blank.1 s.blank.2 chapter fun s o =>
      load chapter (if page = 0 then 1 else page) postLoad o.id
        (s.takeOpened chapter.source o).1 (s.takeOpened chapter.source o).2)

theorem openChain_way (page : Int) (postLoad : Option String) (s : Session) :
    Way page postLoad s (openChain page postLoad s) := by
  cases hchapter : s.document.paging.chapter? with
  | none =>
    rw [openChain, hchapter]
    exact .nowhere hchapter
  | some chapter =>
    by_cases hsame : s.opened = some chapter.source ∧ s.documentId.isSome = true
    · obtain ⟨id, hid⟩ := Option.isSome_iff_exists.1 hsame.2
      rw [openChain_stays page postLoad hchapter hsame.1 hid]
      exact .stays hchapter hsame.1 hid
    · rw [openChain_opens page postLoad hchapter hsame]
      exact .opens hchapter hsame

end Session

namespace Chain

variable {α β : Type} {P : List Happening → Chain α → Prop} {Q : List Happening → Chain Unit → Prop}
  {h : List Happening} {s : Session} {said : List SessionEffect} {request : SessionRequest}

/-- What happens until an answer is there. -/
def asking (said : List SessionEffect) (request : SessionEffect) (x : Happening) : List Happening :=
  (said ++ [request]).map .said ++ [x]

theorem throughout_attempt {verdict : Session → Answer Json → Except SessionError β}
    {next : Session → Chain α} (hc : P h (attempt s said request verdict next))
    (hfailed : ∀ a e, verdict (s.answered a) a = .error e →
      P (h ++ asking said (.ask request) (.answered a)) (failed (s.answered a) [] e))
    (hnext : ∀ a value, verdict (s.answered a) a = .ok value →
      (next (s.answered a)).Throughout P (h ++ asking said (.ask request) (.answered a))) :
    (attempt s said request verdict next).Throughout P h := by
  apply throughout_ask hc
  intro a
  cases hverdict : verdict (s.answered a) a with
  | error e => exact throughout_done (hfailed a e hverdict)
  | ok value => exact hnext a value hverdict

theorem throughout_attemptOpen {chapter : Chapter} {next : Session → OpenedDocument → Chain Unit}
    (hc : Q h (attemptOpen s said chapter next))
    (hfailed : ∀ a e, a.taken (s.answered a) = .error e →
      Q (h ++ asking said (.openDocument chapter) (.opened a)) (failed (s.answered a) [] e))
    (hnext : ∀ a o, a.taken (s.answered a) = .ok o →
      (next (s.answered a) o).Throughout Q (h ++ asking said (.openDocument chapter) (.opened a))) :
    (attemptOpen s said chapter next).Throughout Q h := by
  apply throughout_of_next hc
  intro x d hstep
  cases hstep with
  | opened _ _ _ a =>
    dsimp only
    cases hverdict : a.taken (s.answered a) with
    | error e => exact throughout_done (hfailed a e hverdict)
    | ok o => exact hnext a o hverdict

end Chain

end BandCanvas
