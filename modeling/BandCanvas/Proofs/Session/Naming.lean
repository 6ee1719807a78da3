import BandCanvas.Proofs.Session.Reached
import BandCanvas.Proofs.Session.Sending

namespace BandCanvas

namespace Answer

def accepted? (a : Answer OpenedDocument) : Option OpenedDocument :=
  match a.cancelled, a.reply with
  | false, .ok (.ack o) => some o
  | _, _ => none

def fails (a : Answer Json) : Bool :=
  match a.outcome with
  | .error _ => true
  | .ok _ => false

variable {s : Session} {a : Answer Json}

theorem fails_of_outcome {u : Unit} (h : a.outcome = .ok u) : a.fails = false := by
  rw [fails, h]

theorem fails_of_taken {value : Json} (h : a.taken s = .ok value) : a.fails = false := by
  rw [fails, outcome, (reply_of_taken h).2]

theorem fails_of_heeded {u : Unit} (h : a.heeded s = .ok u) : a.fails = false := by
  rw [heeded] at h
  split at h
  next => cases h
  next => exact fails_of_outcome h

end Answer

namespace Happening

def accepts : Happening → Bool
  | .opened a => a.accepted?.isSome
  | _ => false

/-- Whether the document is dropped: after a failure, by closing that was answered, or by giving up. -/
def drops : Happening → Bool
  | .opened a => a.accepted?.isNone
  | .answered a => a.fails
  | .said (.document (.event (.loadError _))) => true
  | .ended .close (.error .busy) => false
  | .ended .close _ => true
  | .aborted => true
  | _ => false

def asks : Happening → Bool
  | .said (.ask _) => true
  | _ => false

/-- The document that was opened last was opened for a chapter, and was registered at once. It has not been
dropped since. -/
def OpenFor (h : List Happening) (chapter : Chapter) (id : String) : Prop :=
  ∃ before a o since,
    h = before ++ [.said (.openDocument chapter), .opened a, .said (.register id)] ++ since ∧
    a.accepted? = some o ∧ o.id = id ∧ ∀ x ∈ since, x.accepts = false ∧ x.drops = false

def NamesOpen (h : List Happening) : Prop :=
  ∀ before r after, h = before ++ .said (.ask r) :: after → ∃ chapter, OpenFor before chapter r.id

/-- Nothing of it asks anything, or matters to the document that is open. -/
def Idle (h : List Happening) : Prop :=
  ∀ x ∈ h, x.accepts = false ∧ x.drops = false ∧ x.asks = false

variable {h more : List Happening} {chapter earlier : Chapter} {id : String}

theorem idle_silent {said : List SessionEffect} (hsaid : Session.Silent said)
    (hout : said.filter SessionEffect.isOut = []) : Idle (said.map .said) := by
  intro x hx
  obtain ⟨e, he, rfl⟩ := List.mem_map.1 hx
  cases e with
  | document e =>
    refine ⟨rfl, ?_, rfl⟩
    have hsilent := hsaid _ he
    cases e with
    | event e =>
      cases e with
      | loadError => cases hsilent
      | _ => rfl
    | _ => rfl
  | _ => exact absurd rfl (List.filter_eq_nil_iff.1 hout _ he)

theorem asks_of_filter_isOut {said : List SessionEffect} (hout : said.filter SessionEffect.isOut = []) :
    ∀ x ∈ said.map Happening.said, x.asks = false := by
  intro x hx
  obtain ⟨e, he, rfl⟩ := List.mem_map.1 hx
  cases e with
  | ask r => exact absurd rfl (List.filter_eq_nil_iff.1 hout _ he)
  | _ => rfl

theorem OpenFor.append (hopen : OpenFor h chapter id)
    (hmore : ∀ x ∈ more, x.accepts = false ∧ x.drops = false) : OpenFor (h ++ more) chapter id := by
  obtain ⟨before, a, o, since, rfl, ha, hid, hsince⟩ := hopen
  exact ⟨before, a, o, since ++ more, List.append_assoc _ _ _, ha, hid,
    List.forall_mem_append.2 ⟨hsince, hmore⟩⟩

theorem openFor_registered (h : List Happening) (chapter : Chapter) {a : Answer OpenedDocument}
    {o : OpenedDocument} (ha : a.accepted? = some o) :
    OpenFor (h ++ [.said (.openDocument chapter), .opened a, .said (.register o.id)]) chapter o.id :=
  ⟨h, a, o, [], (List.append_nil _).symm, ha, rfl, List.forall_mem_nil _⟩

theorem eq_of_accepts_last {mid since since' : List Happening} {x x' y y' : Happening}
    (heq : x :: y :: since = mid ++ x' :: y' :: since') (hx' : x'.accepts = false)
    (hy : y.accepts = true) (hy' : y'.accepts = true) (hsince : ∀ z ∈ since, z.accepts = false) :
    x = x' := by
  match mid, heq with
  | [], heq => exact (List.cons.inj heq).1
  | [_], heq =>
    obtain ⟨rfl, -⟩ := List.cons.inj (List.cons.inj heq).2
    rw [hx'] at hy
    cases hy
  | _ :: _ :: mid, heq =>
    have hmem : y' ∈ since := by
      rw [(List.cons.inj (List.cons.inj heq).2).2]
      exact List.mem_append_right mid (List.mem_cons_of_mem x' List.mem_cons_self)
    rw [hsince y' hmem] at hy'
    cases hy'

/-- What was accepted last was accepted at one place only. -/
theorem OpenFor.unique {id' : String} (hopen : OpenFor h chapter id) (hopen' : OpenFor h earlier id') :
    chapter = earlier := by
  obtain ⟨before, a, o, since, rfl, ha, -, hsince⟩ := hopen
  obtain ⟨before', a', o', since', heq, ha', -, hsince'⟩ := hopen'
  have hsome : (Happening.opened a).accepts = true := congrArg Option.isSome ha
  have hsome' : (Happening.opened a').accepts = true := congrArg Option.isSome ha'
  have hlast : ∀ z ∈ .said (.register id) :: since, z.accepts = false :=
    List.forall_mem_cons.2 ⟨rfl, fun x hx => (hsince x hx).1⟩
  have hlast' : ∀ z ∈ .said (.register id') :: since', z.accepts = false :=
    List.forall_mem_cons.2 ⟨rfl, fun x hx => (hsince' x hx).1⟩
  have hsame : Happening.said (.openDocument chapter) = .said (.openDocument earlier) := by
    rw [List.append_assoc, List.append_assoc] at heq
    rcases List.append_eq_append_iff.1 heq with ⟨mid, -, hmid⟩ | ⟨mid, -, hmid⟩
    · exact eq_of_accepts_last hmid rfl hsome hsome' hlast
    · exact (eq_of_accepts_last hmid rfl hsome' hsome hlast').symm
  injection hsame with hsame
  injection hsame

theorem namesOpen_nil : NamesOpen [] := by
  intro before r after heq
  cases (List.append_eq_nil_iff.1 heq.symm).2

theorem NamesOpen.snoc {x : Happening} (hh : NamesOpen h)
    (hx : ∀ r, x = .said (.ask r) → ∃ chapter, OpenFor h chapter r.id) : NamesOpen (h ++ [x]) := by
  have hplaces := forall_place_snoc
    (P := fun h y => ∀ r, y = .said (.ask r) → ∃ chapter, OpenFor h chapter r.id)
    (fun before y after heq r hr => hh before r after (hr ▸ heq)) hx
  intro before r after heq
  exact hplaces before _ after heq r rfl

theorem NamesOpen.append (hh : NamesOpen h) (hmore : ∀ x ∈ more, x.asks = false) :
    NamesOpen (h ++ more) := by
  induction more generalizing h with
  | nil =>
    rw [List.append_nil]
    exact hh
  | cons x more ih =>
    obtain ⟨hx, hmore⟩ := List.forall_mem_cons.1 hmore
    have hnext : NamesOpen (h ++ [x]) := by
      apply hh.snoc
      rintro r rfl
      cases hx
    rw [List.append_cons]
    exact ih hnext hmore

end Happening

open Happening

/-- The session knows the document that was opened last, and what it was opened for. Requests have named
none but it. -/
structure Session.Faithful (h : List Happening) (s : Session) : Prop where
  names : NamesOpen h
  current : ∀ id, s.documentId = some id →
    ∃ chapter, s.opened = some chapter.source ∧ OpenFor h chapter id
  loaded : s.lifecycle = .opened → s.documentId.isSome = true

namespace Session.Faithful

variable {h more : List Happening} {s s' : Session}

theorem idle (hf : s.Faithful h) (hmore : Idle more) (hid : s'.documentId = s.documentId)
    (hopened : s'.opened = s.opened)
    (hstage : s'.lifecycle = .opened → s.lifecycle = .opened ∨ s.documentId.isSome = true) :
    s'.Faithful (h ++ more) where
  names := hf.names.append fun x hx => (hmore x hx).2.2
  current id hsome := by
    rw [hid] at hsome
    obtain ⟨chapter, hchapter, hopen⟩ := hf.current id hsome
    refine ⟨chapter, hopened.trans hchapter, hopen.append fun x hx => ?_⟩
    exact ⟨(hmore x hx).1, (hmore x hx).2.1⟩
  loaded hs := by
    rw [hid]
    exact (hstage hs).elim hf.loaded id

theorem dropped (hnames : NamesOpen h) (hid : s.documentId = none) (hstage : s.lifecycle = .closed) :
    s.Faithful h where
  names := hnames
  current id hsome := by
    rw [hid] at hsome
    cases hsome
  loaded hs := by
    rw [hstage] at hs
    cases hs

theorem cleared (hnames : NamesOpen h) (hs : s.Cleared) : s.Faithful h :=
  dropped hnames hs.documentId hs.lifecycle

theorem ask {r : SessionRequest} (hf : s.Faithful h) (hid : s.documentId = some r.id) :
    s.Faithful (h ++ [.said (.ask r)]) where
  names := by
    apply hf.names.snoc
    intro r' hr
    injection hr with hr
    injection hr with hr
    obtain ⟨chapter, -, hopen⟩ := hf.current r.id hid
    exact ⟨chapter, hr ▸ hopen⟩
  current id hsome := by
    obtain ⟨chapter, hchapter, hopen⟩ := hf.current id hsome
    exact ⟨chapter, hchapter, hopen.append (List.forall_mem_singleton.2 ⟨rfl, rfl⟩)⟩
  loaded := hf.loaded

theorem register {chapter : Chapter} {a : Answer OpenedDocument} {o : OpenedDocument}
    (hnames : NamesOpen h) (ha : a.accepted? = some o) (hid : s.documentId = some o.id)
    (hopened : s.opened = some chapter.source) :
    s.Faithful (h ++ [.said (.openDocument chapter), .opened a, .said (.register o.id)]) where
  names := hnames.append (by simp [asks])
  current id hsome := by
    rw [hid] at hsome
    obtain rfl := Option.some.inj hsome
    exact ⟨chapter, hopened, openFor_registered h chapter ha⟩
  loaded _ := by
    rw [hid]
    rfl

end Session.Faithful

namespace Chain

open Session

variable {α β : Type} {h : List Happening} {s : Session} {said : List SessionEffect}

/-- Up to where an operation has come, its session has been faithful to what has happened. -/
def Faithful (h : List Happening) (c : Chain α) : Prop :=
  c.session.Faithful (h ++ c.said)

theorem faithful_done {r : Except SessionError α} (hf : s.Faithful (h ++ said.map .said)) :
    (Chain.done s said r).Throughout Faithful h :=
  throughout_done hf

theorem faithful_failed (e : SessionError) (hnames : NamesOpen h) :
    Faithful h (failed s [] e : Chain α) := by
  have hout : (s.fail e).2.filter SessionEffect.isOut = [] := filter_isOut_fail e s
  exact .cleared (hnames.append (asks_of_filter_isOut hout)) (fail_failed e s).1

theorem faithful_ask {request : SessionRequest} {resume : Session → Answer Json → Chain α}
    (hf : s.Faithful (h ++ said.map .said)) (hid : s.documentId = some request.id)
    (hresume : ∀ a h, NamesOpen h → (a.fails = false → (s.answered a).Faithful h) →
      (resume (s.answered a) a).Throughout Faithful h) :
    (ask s said request resume).Throughout Faithful h := by
  have hasked : s.Faithful (h ++ (said ++ [SessionEffect.ask request]).map .said) := by
    rw [List.map_append, ← List.append_assoc]
    exact hf.ask hid
  apply throughout_ask (P := Faithful) hasked
  intro a
  rw [← List.append_assoc]
  apply hresume
  · exact hasked.names.append (List.forall_mem_singleton.2 rfl)
  · intro ha
    exact hasked.idle (List.forall_mem_singleton.2 ⟨rfl, ha, rfl⟩) rfl rfl .inl

theorem faithful_attempt {request : SessionRequest}
    {verdict : Session → Answer Json → Except SessionError β} {next : Session → Chain α}
    (hf : s.Faithful (h ++ said.map .said)) (hid : s.documentId = some request.id)
    (hverdict : ∀ t a value, verdict t a = .ok value → a.fails = false)
    (hnext : ∀ (a : Answer Json) h, (s.answered a).Faithful h → (next (s.answered a)).Throughout Faithful h) :
    (attempt s said request verdict next).Throughout Faithful h := by
  apply faithful_ask hf hid
  intro a h hnames hf
  split
  next => exact throughout_done (faithful_failed _ hnames)
  next value htaken => exact hnext a h (hf (hverdict _ a value htaken))

end Chain

namespace Session

open Chain SessionOperation

variable {h : List Happening} {s : Session} {said : List SessionEffect} {id : String}

theorem idle_onDocument {f : Document → Outcome} (hf : ∀ d : Document, d.Unattended (f d)) (s : Session) :
    Idle ((s.onDocument f).2.map .said) :=
  idle_silent (silent_onDocument hf s) (SessionEffect.filter_isOut_document _)

theorem arrive_faithful (chapter : Chapter) (scale : Float) (postLoad : Option String)
    (hf : s.Faithful h) (hid : s.documentId = some id) :
    (arrive chapter scale postLoad id s).Throughout Chain.Faithful h := by
  have hidle : Idle ((s.showChapter chapter scale).2.map .said) :=
    idle_silent (showChapter_silent chapter scale s) (filter_isOut_showChapter chapter scale s)
  have hsome : s.documentId.isSome = true := by
    rw [hid]
    rfl
  cases postLoad with
  | none =>
    rw [arrive_none]
    exact faithful_done (hf.idle hidle rfl rfl fun _ => .inr hsome)
  | some text =>
    have hshown : (s.showChapter chapter scale).1.Faithful
        (h ++ (s.showChapter chapter scale).2.map .said) := hf.idle hidle rfl rfl fun _ => .inr hsome
    have hnamed : (s.showChapter chapter scale).1.documentId =
        some (SessionRequest.command id text).id := hid
    rw [arrive_some]
    apply faithful_attempt hshown hnamed fun _ _ _ => Answer.fails_of_heeded
    intro a h hf
    apply faithful_done
    exact hf.idle (List.forall_mem_nil _) rfl rfl fun _ => .inr hsome

theorem load_faithful (chapter : Chapter) (page : Int) (postLoad : Option String)
    (hf : s.Faithful (h ++ said.map .said)) (hid : s.documentId = some id) :
    (load chapter page postLoad id s said).Throughout Chain.Faithful h := by
  have hnamed : s.documentId = some (SessionRequest.load (s.loadRequest chapter page id)).id := hid
  apply faithful_attempt hf hnamed fun _ _ _ => Answer.fails_of_taken
  intro a h hf
  exact arrive_faithful chapter _ postLoad hf hid

theorem accepted_of_taken {a : Answer OpenedDocument} {o : OpenedDocument}
    (h : a.taken (s.answered a) = .ok o) : a.accepted? = some o := by
  obtain ⟨hcancelled, hreply⟩ := Answer.reply_of_taken h
  have ha : a.cancelled = false := (Bool.or_eq_false_iff.1 hcancelled).2
  rw [Answer.accepted?, ha, hreply]

theorem takeOpened_said (report : OpenedReport) (o : OpenedDocument) (s : Session) :
    ∃ configured, (s.takeOpened report o).2 = .register o.id :: configured ∧
      Idle (configured.map .said) :=
  ⟨_, rfl, idle_onDocument (fun d => d.configurePage_unattended _ _ _) s⟩

theorem openChain_faithful (page : Int) (postLoad : Option String) (hf : s.Faithful h)
    (hstage : s.lifecycle ≠ .opened) : (openChain page postLoad s).Throughout Chain.Faithful h := by
  have hblank : s.blank.1.Faithful (h ++ s.blank.2.map .said) := by
    have hidle : Idle (s.blank.2.map .said) := idle_onDocument (fun d =>
      (d.setEditable_unattended false).update fun _ => rfl) _
    exact hf.idle hidle rfl rfl fun hopened => absurd hopened hstage
  have hway := openChain_way page postLoad s
  generalize openChain page postLoad s = c at hway ⊢
  cases hway with
  | nowhere hchapter => exact throughout_done (faithful_failed _ hf.names)
  | stays hchapter hopened hid => exact load_faithful _ _ _ hblank hid
  | @opens chapter hchapter hother =>
    have hasked : s.blank.1.Faithful
        (h ++ (s.blank.2 ++ [SessionEffect.openDocument chapter]).map .said) := by
      rw [List.map_append, ← List.append_assoc]
      exact hblank.idle (List.forall_mem_singleton.2 ⟨rfl, rfl, rfl⟩) rfl rfl .inl
    apply throughout_attemptOpen (Q := Chain.Faithful) hasked
    · intro a e _
      apply faithful_failed
      rw [asking, ← List.append_assoc]
      exact hasked.names.append (List.forall_mem_singleton.2 rfl)
    · intro a o ho
      have hregistered : ((s.blank.1.answered a).takeOpened chapter.source o).1.Faithful
          (h ++ s.blank.2.map .said ++
            [.said (.openDocument chapter), .opened a, .said (.register o.id)]) :=
        .register hblank.names (accepted_of_taken ho) rfl rfl
      obtain ⟨configured, hsaid, hidle⟩ := takeOpened_said chapter.source o (s.blank.1.answered a)
      have hopened := hregistered.idle hidle rfl rfl .inl
      apply load_faithful _ _ _ _ rfl
      rw [hsaid]
      simpa [asking, List.append_assoc] using hopened

theorem finishClose_faithful (result : Except SessionError Unit) (s : Session) (hnames : NamesOpen h) :
    (finishClose result s).Throughout Chain.Faithful h := by
  have hout : s.clear.2.filter SessionEffect.isOut = [] := SessionEffect.filter_isOut_document _
  exact faithful_done (.cleared (hnames.append (asks_of_filter_isOut hout)) { s.clear_cleared with })

theorem chain_faithful (op : SessionOperation) (hf : s.Faithful h) :
    (op.chain s).Throughout Chain.Faithful h := by
  have hstill : ∀ {t : Session}, t.documentId = s.documentId → t.opened = s.opened →
      (t.lifecycle = .opened → s.lifecycle = .opened) → t.Faithful (h ++ []) :=
    fun hid hopened hstage => hf.idle (List.forall_mem_nil _) hid hopened fun ht => .inl (hstage ht)
  have hcourse := chain_course s op
  generalize op.enters s = stage at hcourse
  generalize op.chain s = c at hcourse ⊢
  cases hcourse with
  | @opens t ht hready =>
    have hstart : (t.start s).Faithful (h ++ []) := hstill rfl rfl fun hopened => nomatch hopened
    rw [List.append_nil] at hstart
    exact openChain_faithful _ _ hstart fun hopened => nomatch hopened
  | @turns id page hturns hid =>
    have hsome : s.documentId.isSome = true := by
      rw [hid]
      rfl
    rw [settle_eq_attempt]
    refine faithful_attempt (hstill rfl rfl fun hopened => nomatch hopened) hid
      (fun _ _ _ => Answer.fails_of_outcome) fun a h hf => ?_
    exact faithful_done (hf.idle (List.forall_mem_nil _) rfl rfl fun _ => .inr hsome)
  | strays hturns hid => exact faithful_done (hstill rfl rfl fun hopened => nomatch hopened)
  | closes hcloses hid =>
    refine faithful_ask (hstill rfl rfl fun hopened => nomatch hopened) hid fun a h hnames _ => ?_
    exact finishClose_faithful _ _ hnames
  | forgets hcloses hid => exact finishClose_faithful _ _ hf.names
  | zooms zoom scale hstage hid =>
    have hidle := idle_onDocument (fun d => d.setZoom_unattended zoom) s
    rw [settle_eq_attempt]
    refine faithful_attempt (hf.idle hidle rfl rfl .inl) hid
      (fun _ _ _ => Answer.fails_of_outcome) fun a h hf => ?_
    exact faithful_done (hf.idle (List.forall_mem_nil _) rfl rfl .inl)
  | resizes zoom =>
    have hidle := idle_onDocument (fun d => d.setZoom_unattended zoom) s
    exact faithful_done (hf.idle hidle rfl rfl .inl)
  | asks haside hid =>
    rw [settle_eq_attempt]
    refine faithful_attempt (hstill rfl rfl id) hid (fun _ _ _ => Answer.fails_of_outcome)
      fun a h hf => ?_
    exact faithful_done (hf.idle (List.forall_mem_nil _) rfl rfl .inl)
  | stops r => exact faithful_done (hstill rfl rfl id)

theorem cleared_of_drops {op : SessionOperation} {hs : List Happening} {c : Chain Unit}
    (hgoes : (op.chain s).Goes hs c) (hdrops : (c.conclusion op).drops = true) : c.session.Cleared := by
  cases c with
  | done t said r =>
    obtain ⟨all, hends⟩ := hgoes.ends (.done t said r)
    cases op with
    | close =>
      rcases always_iff.1 s.close_cleared t all r hends with hcleared | ⟨-, rfl⟩
      · exact hcleared
      · cases hdrops
    | _ => cases hdrops
  | awaitOpen | await => cases hdrops

theorem Run.faithful {host : WidgetHost} (hrun : Run host h s) : s.Faithful h := by
  induction hrun with
  | create o => exact .dropped namesOpen_nil rfl rfl
  | @operate h hs s c op hrun hgoes ih =>
    have hbegan : s.Faithful (h ++ [.began op (op.opens s)]) :=
      ih.idle (List.forall_mem_singleton.2 ⟨rfl, rfl, rfl⟩) rfl rfl .inl
    have hgone : c.session.Faithful (h ++ [.began op (op.opens s)] ++ hs ++ c.said) :=
      chain_faithful op hbegan hs c hgoes
    have hasks : ∀ x ∈ [c.conclusion op], x.asks = false := by
      cases c <;> exact List.forall_mem_singleton.2 rfl
    have haccepts : (c.conclusion op).accepts = false := by
      cases c <;> rfl
    have hlast : c.session.Faithful (h ++ [.began op (op.opens s)] ++ hs ++ c.said ++ [c.conclusion op]) := by
      cases hdrops : (c.conclusion op).drops with
      | true => exact .cleared (hgone.names.append hasks) (cleared_of_drops hgoes hdrops)
      | false =>
        exact hgone.idle (List.forall_mem_singleton.2 ⟨haccepts, hdrops, hasks _ List.mem_cons_self⟩)
          rfl rfl .inl
    simpa [List.append_assoc] using hlast
  | use op hrun ih => exact ih.idle (List.forall_mem_singleton.2 ⟨rfl, rfl, rfl⟩) rfl rfl .inl
  | cancel hrun ih => exact ih.idle (List.forall_mem_singleton.2 ⟨rfl, rfl, rfl⟩) rfl rfl .inl
  | @abort h s hrun ih =>
    exact .cleared (ih.names.append (List.forall_mem_singleton.2 rfl)) s.abort_cleared

theorem Faithful.holds_iff (hf : s.Faithful h) (chapter : Chapter) :
    (∃ id earlier, s.documentId = some id ∧ OpenFor h earlier id ∧ earlier.source = chapter.source) ↔
      s.opened = some chapter.source ∧ s.documentId.isSome = true := by
  constructor
  · rintro ⟨id, earlier, hid, hopen, hsource⟩
    obtain ⟨current, hopened, hcurrent⟩ := hf.current id hid
    obtain rfl := hopen.unique hcurrent
    rw [hopened, hid, hsource]
    exact ⟨rfl, rfl⟩
  · rintro ⟨hopened, hsome⟩
    obtain ⟨id, hid⟩ := Option.isSome_iff_exists.1 hsome
    obtain ⟨current, hcurrent, hopen⟩ := hf.current id hid
    rw [hopened] at hcurrent
    exact ⟨id, current, hid, hopen, (Option.some.inj hcurrent).symm⟩

/-- Every request names the document that was opened last, which is registered and has not been dropped since.
-/
theorem requests_name_open_document {host : WidgetHost} (hrun : Run host h s) :
    NamesOpen h ∧
    ∀ (op : SessionOperation) (t : Destination) (hs : List Happening) (c : Chain Unit),
      op.opens s = true → op.destination? s = some t → (op.chain s).Goes hs c →
      match (t.document s).paging.chapter? with
      | none => sent (hs ++ c.said) = []
      | some chapter =>
        Approaches chapter t.page t.postLoad
          (∃ id earlier, s.documentId = some id ∧ OpenFor h earlier id ∧
            earlier.source = chapter.source)
          c.result? (sent (hs ++ c.said)) := by
  have hf := hrun.faithful
  refine ⟨hf.names, fun op t hs c hopens ht hgoes => ?_⟩
  rw [chain_eq_openChain hopens ht] at hgoes
  split
  next hnone =>
    have hstart : (t.start s).document.paging.chapter? = none := hnone
    exact openChain_sends_nothing t.page t.postLoad hstart hs c hgoes
  next chapter hchapter =>
    have hstart : (t.start s).document.paging.chapter? = some chapter := hchapter
    rw [propext (hf.holds_iff chapter)]
    exact openChain_approaches t.page t.postLoad hstart hs c hgoes

theorem requests_name_open_document_letters :
    let host : WidgetHost := ⟨fun _ => none, fun _ _ => .ok (), fun _ box => box⟩
    let second : Chapter := ⟨"second", "letter.jrxml", "pt_PT", true, none, 2⟩
    ∃ h s, Run host h s ∧ NamesOpen h ∧ SessionOperation.nextChapter.opens s = true ∧
      ∀ hs c, (SessionOperation.nextChapter.chain s).Goes hs c →
        Approaches second 1 none
          (∃ id earlier, s.documentId = some id ∧ OpenFor h earlier id ∧
            earlier.source = second.source)
          c.result? (sent (hs ++ c.said)) := by
  intro host second
  obtain ⟨h, s, hrun, -, hstage, -, -, hpaging⟩ := run_letters host
  have hdestination : SessionOperation.nextChapter.destination? s = some ⟨none, 1, 1, none⟩ := by
    rw [destination?, hpaging]
    rfl
  have hopens : SessionOperation.nextChapter.opens s = true := by
    rw [opens_eq_destination, hdestination, hstage]
    rfl
  have hchapter : (Destination.document ⟨none, 1, 1, none⟩ s).paging.chapter? = some second := by
    show (s.document.paging.setChapterIndex 1).chapter? = some second
    rw [hpaging]
    rfl
  obtain ⟨hnames, hways⟩ := requests_name_open_document hrun
  refine ⟨h, s, hrun, hnames, hopens, fun hs c hgoes => ?_⟩
  have hway := hways .nextChapter _ hs c hopens hdestination hgoes
  rw [hchapter] at hway
  exact hway

end Session

end BandCanvas
