import BandCanvas.Proofs.Document.PageNumbers
import BandCanvas.Proofs.Document.Reports
import BandCanvas.Proofs.Session.Naming

namespace BandCanvas

open Chain SessionOperation

def SessionOperation.brings : SessionOperation → Bool
  | openModel _ | openAndHighlight .. => true
  | _ => false

namespace DocumentModel

theorem locatePage_bounds {m : DocumentModel} {page i p : Nat} (h : m.locatePage page = some (i, p)) :
    i < m.chapters.length ∧ 0 < p := by
  obtain ⟨⟨c, hc, hp, -⟩, -⟩ := locatePage_eq_some_iff.1 h
  exact ⟨(List.getElem?_eq_some_iff.1 hc).1, hp⟩

end DocumentModel

namespace Happening

def reports : Happening → List (Nat × Nat)
  | .document op => op.reports
  | _ => []

def opensChapter : Happening → Bool
  | .began _ opens => opens
  | _ => false

def takesModel : Happening → Bool
  | .began op opens => opens && op.brings
  | .ended .close (.error .busy) => false
  | .ended .close _ => true
  | _ => false

/-- The reports that came since something happened the last time. -/
def reportsSince (p : Happening → Bool) (h : List Happening) : List (Nat × Nat) :=
  h.foldl (fun reports x => if p x then [] else reports ++ x.reports) []

/-- The last report since something happened is of a page. -/
def LastReported (p : Happening → Bool) (h : List Happening) (page : Nat) : Prop :=
  ∃ count, (reportsSince p h).getLast? = some (page, count)

variable {p : Happening → Bool} {h hs : List Happening}

theorem reportsSince_snoc (p : Happening → Bool) (h : List Happening) (x : Happening) :
    reportsSince p (h ++ [x]) = if p x then [] else reportsSince p h ++ x.reports :=
  List.foldl_append

theorem reportsSince_still {x : Happening} (hp : p x = false) (hx : x.reports = []) :
    reportsSince p (h ++ [x]) = reportsSince p h := by
  rw [reportsSince_snoc, hp, hx, List.append_nil]
  rfl

theorem reports_of_underWay {x : Happening} (hx : x.isUnderWay = true) : x.reports = [] := by
  cases x with
  | said | opened | answered => rfl
  | _ => cases hx

theorem reportsSince_underWay (hp : ∀ x, x.isUnderWay = true → p x = false)
    (hunder : ∀ x ∈ hs, x.isUnderWay = true) : reportsSince p (h ++ hs) = reportsSince p h := by
  induction hs generalizing h with
  | nil => rw [List.append_nil]
  | cons x hs ih =>
    obtain ⟨hx, hunder⟩ := List.forall_mem_cons.1 hunder
    rw [List.append_cons, ih hunder, reportsSince_still (hp x hx) (reports_of_underWay hx)]

/-- Nothing is reported while an operation is under way. -/
theorem reportsSince_operation {op : SessionOperation} {opens : Bool} {c d : Chain Unit}
    (hp : ∀ x, x.isUnderWay = true → p x = false) (hgoes : c.Goes hs d) :
    reportsSince p (h ++ .began op opens :: (hs ++ d.said ++ [d.conclusion op])) =
      if p (d.conclusion op) || p (.began op opens) then [] else reportsSince p h := by
  have hunder : ∀ x ∈ hs ++ d.said, x.isUnderWay = true :=
    List.forall_mem_append.2 ⟨hgoes.underWay, d.said_underWay⟩
  have hlast : (d.conclusion op).reports = [] := by
    cases d <;> rfl
  have hlist : h ++ .began op opens :: (hs ++ d.said ++ [d.conclusion op]) =
      h ++ [.began op opens] ++ (hs ++ d.said) ++ [d.conclusion op] := by
    simp
  rw [hlist, reportsSince_snoc, reportsSince_underWay hp hunder, reportsSince_snoc, hlast,
    List.append_nil]
  have hbegan : (Happening.began op opens).reports = [] := rfl
  rw [hbegan, List.append_nil]
  cases p (d.conclusion op) <;> cases p (.began op opens) <;> rfl

theorem takesModel_underWay (x : Happening) (hx : x.isUnderWay = true) : x.takesModel = false := by
  cases x with
  | said | opened | answered => rfl
  | _ => cases hx

theorem opensChapter_underWay (x : Happening) (hx : x.isUnderWay = true) : x.opensChapter = false := by
  cases x with
  | said | opened | answered => rfl
  | _ => cases hx

end Happening

namespace Session

open Happening

def place (s : Session) : Paging :=
  s.document.paging.setLoading false

end Session

namespace Chain

variable {α β : Type} {v : Paging} {h : List Happening} {s : Session} {said : List SessionEffect}
  {request : SessionRequest}

def Stands (v : Paging) (_ : List Happening) (c : Chain α) : Prop :=
  c.session.place = v

theorem fail_place (e : SessionError) (s : Session) : (s.fail e).1.place = s.place := by
  have hpaging : (s.fail e).1.document.paging =
      (Session.emptied s.document).document.paging.setLoading false := rfl
  rw [Session.place, hpaging, Session.emptied_document]
  rfl

theorem stands_done {r : Except SessionError α} (hs : s.place = v) :
    (Chain.done s said r).Throughout (Stands v) h :=
  throughout_done hs

theorem stands_attempt {verdict : Session → Answer Json → Except SessionError β}
    {next : Session → Chain α} (hs : s.place = v)
    (hnext : ∀ (a : Answer Json) h, (next (s.answered a)).Throughout (Stands v) h) :
    (attempt s said request verdict next).Throughout (Stands v) h := by
  apply throughout_attempt (P := Stands v) hs
  · intro a e _
    exact (fail_place e _).trans hs
  · intro a value _
    exact hnext a _

theorem stands_attemptOpen {chapter : Chapter} {next : Session → OpenedDocument → Chain Unit}
    (hs : s.place = v)
    (hnext : ∀ (a : Answer OpenedDocument) o h, (next (s.answered a) o).Throughout (Stands v) h) :
    (attemptOpen s said chapter next).Throughout (Stands v) h := by
  apply throughout_attemptOpen (Q := Stands v) hs
  · intro a e _
    exact (fail_place e _).trans hs
  · intro a o _
    exact hnext a o _

end Chain

namespace Session

open Happening

variable {v : Paging} {h : List Happening} {s : Session} {said : List SessionEffect}

theorem showChapter_place (chapter : Chapter) (scale : Float) (s : Session) :
    (s.showChapter chapter scale).1.place = s.place := by
  have hpaging : (s.showChapter chapter scale).1.document.paging =
      (s.document.setEditable chapter.editable).document.paging.setLoading false := rfl
  rw [place, hpaging, Document.setEditable_paging]
  rfl

theorem blank_place (s : Session) : s.blank.1.place = s.place := by
  have hpaging : s.blank.1.document.paging =
      (Document.setEditable false (s.mapPaging (Paging.setLoading true)).document).document.paging := rfl
  rw [place, hpaging, Document.setEditable_paging]
  rfl

theorem load_stands (chapter : Chapter) (page : Int) (postLoad : Option String) (id : String)
    (hs : s.place = v) : (load chapter page postLoad id s said).Throughout (Stands v) h := by
  apply stands_attempt hs
  intro a h
  have hshown := (showChapter_place chapter s.document.scale.toCanvas (s.answered a)).trans hs
  cases postLoad with
  | none => exact stands_done hshown
  | some text =>
    rw [arrive_some]
    apply stands_attempt hshown
    intro a h
    exact stands_done hshown

theorem openChain_stands (page : Int) (postLoad : Option String) (s : Session) :
    (openChain page postLoad s).Throughout (Stands s.place) h := by
  have hblank := s.blank_place
  have hway := openChain_way page postLoad s
  generalize openChain page postLoad s = c at hway ⊢
  cases hway with
  | nowhere hchapter =>
    have hfailed := fail_place (.protocol ["document has no chapters"]) s
    exact stands_done hfailed
  | stays hchapter hopened hid => exact load_stands _ _ _ _ hblank
  | opens hchapter hother =>
    apply stands_attemptOpen hblank
    intro a o h
    exact load_stands _ _ _ _ hblank

theorem openChain_loaded {chapter : Chapter} {id : String} (page : Int)
    (hchapter : s.document.paging.chapter? = some chapter) (hopened : s.opened = some chapter.source)
    (hid : s.documentId = some id) (hcancelled : s.cancelled = false) :
    ∃ hs c, (openChain page none s).Goes hs c ∧ c.session.lifecycle = .opened := by
  let loaded : Answer Json := ⟨false, .ok (.ack .null)⟩
  have htaken : loaded.taken (s.blank.1.answered loaded) = .ok .null := by
    have hon : (s.blank.1.answered loaded).cancelled = false :=
      (Bool.or_false s.cancelled).trans hcancelled
    rw [Answer.taken, hon]
    rfl
  rw [openChain_stays page none hchapter hopened hid]
  refine ⟨_, _, .step (.answered _ _ _ loaded) (.refl _), ?_⟩
  dsimp only
  rw [htaken]
  rfl

theorem chain_stands {op : SessionOperation} (hop : op ≠ .close) (hopens : op.opens s = false) :
    (op.chain s).Throughout (Stands s.place) h := by
  have hcourse := chain_course s op
  generalize op.enters s = stage at hcourse
  generalize op.chain s = c at hcourse ⊢
  cases hcourse with
  | opens ht hready =>
    rw [opens_eq_destination, ht, hready] at hopens
    cases hopens
  | turns page hturns hid =>
    rw [settle_eq_attempt]
    exact stands_attempt rfl fun a h => stands_done rfl
  | strays hturns hid => exact stands_done rfl
  | closes hcloses hid => exact absurd (ready_of_closes hcloses).1 hop
  | forgets hcloses hid => exact absurd (ready_of_closes hcloses).1 hop
  | zooms zoom scale hstage hid =>
    rw [settle_eq_attempt]
    exact stands_attempt rfl fun a h => stands_done rfl
  | resizes zoom => exact stands_done rfl
  | asks haside hid =>
    rw [settle_eq_attempt]
    exact stands_attempt rfl fun a h => stands_done rfl
  | stops r => exact stands_done rfl

theorem start_chapterPage {op : SessionOperation} {t : Destination} (ht : op.destination? s = some t) :
    (t.start s).document.paging.chapterPage =
      if op.brings then (0, 0) else s.document.paging.chapterPage := by
  have hmodel : t.model.isSome = op.brings := by
    cases op with
    | openModel model =>
      obtain rfl := Option.some.inj ht
      rfl
    | openAndHighlight model report field row =>
      obtain ⟨chapter, -, rfl⟩ := Option.map_eq_some_iff.1 ht
      rfl
    | gotoPage page =>
      obtain ⟨place, -, ht⟩ := Option.bind_eq_some_iff.1 ht
      split at ht
      next => cases ht
      next =>
        obtain rfl := Option.some.inj ht
        rfl
    | nextChapter | previousChapter =>
      rw [destination?] at ht
      split at ht
      next =>
        obtain rfl := Option.some.inj ht
        rfl
      next => cases ht
    | _ => cases ht
  rw [← hmodel, Destination.start, Destination.document]
  cases t.model <;> rfl

/-- The page that is known while an operation goes on. -/
def Knows (s : Session) (op : SessionOperation) (_ : List Happening) (c : Chain Unit) : Prop :=
  c.session.document.paging.chapterPage =
    if (c.conclusion op).takesModel || (Happening.began op (op.opens s)).takesModel then (0, 0)
    else s.document.paging.chapterPage

theorem close_knows (s : Session) : s.close.Throughout (Knows s .close) h := by
  have hclosed : ∀ (r : Except SessionError Unit) (t : Session) h,
      (Happening.ended .close r).takesModel = true →
      (finishClose r t).Throughout (Knows s .close) h := by
    intro r t h htaken
    apply throughout_done
    rw [Knows, conclusion, htaken]
    rfl
  rw [close]
  split
  · dsimp only
    split
    · exact hclosed _ _ _ rfl
    · refine throughout_ask (P := Knows s .close) rfl fun a => ?_
      split
      · exact hclosed _ _ _ rfl
      · exact hclosed _ _ _ rfl
      · exact hclosed _ _ _ rfl
  · exact throughout_done rfl

theorem chain_knows (op : SessionOperation) (s : Session) :
    (op.chain s).Throughout (Knows s op) h := by
  by_cases hop : op = .close
  · rw [hop]
    exact s.close_knows
  · have hlast : ∀ c : Chain Unit, (c.conclusion op).takesModel = false := by
      intro c
      cases c with
      | done t said r =>
        cases op with
        | close => exact absurd rfl hop
        | _ => rfl
      | awaitOpen | await => rfl
    have hpage : ∀ {v : Paging} {h : List Happening} {c : Chain Unit}, Stands v h c →
        c.session.document.paging.chapterPage = v.chapterPage := by
      intro v h c hstands
      show c.session.place.chapterPage = v.chapterPage
      rw [hstands]
    cases hopens : op.opens s with
    | true =>
      obtain ⟨t, ht, -, hchain⟩ := chain_of_opens hopens
      rw [hchain]
      refine (openChain_stands t.page t.postLoad (t.start s)).mono fun h c hstands => ?_
      rw [Knows, hlast, hopens, hpage hstands, Bool.false_or]
      exact start_chapterPage ht
    | false =>
      refine (chain_stands hop hopens).mono fun h c hstands => ?_
      rw [Knows, hlast, hopens, hpage hstands]
      rfl

/-- A session knows the last report since its model was taken, unless its host has set the pages. -/
theorem Run.chapterPage {host : WidgetHost} (hrun : Run host h s)
    (hpaging : ∀ p, .document (.paging p) ∉ h) :
    s.document.paging.chapterPage = (reportsSince takesModel h).getLastD (0, 0) := by
  induction hrun with
  | create o => rfl
  | @operate h hs s c op hrun hgoes ih =>
    have hknown : Knows s op _ c := chain_knows (h := []) op s hs c hgoes
    have hbefore := ih fun p hp => hpaging p (List.mem_append_left _ hp)
    rw [hknown, reportsSince_operation takesModel_underWay hgoes, hbefore]
    split <;> rfl
  | @use h s op hrun ih =>
    have hbefore := ih fun p hp => hpaging p (List.mem_append_left _ hp)
    have hop : ∀ p, op ≠ .paging p := by
      rintro p rfl
      exact hpaging p (List.mem_append_right h List.mem_cons_self)
    have hafter := s.document.operation_chapterPage host op hop
    rw [reportsSince_snoc]
    show (op.run host s.document).document.paging.chapterPage =
      (Paging.initial.withReports (reportsSince takesModel h ++ op.reports)).chapterPage
    rw [hafter, Paging.withReports_append, Paging.withReports, hbefore]
    rfl
  | @cancel h s hrun ih =>
    rw [reportsSince_still rfl rfl]
    exact ih fun p hp => hpaging p (List.mem_append_left _ hp)
  | @abort h s hrun ih =>
    have hplace : s.abort.1.place = s.place := fail_place .cancelled _
    have hpage : s.abort.1.document.paging.chapterPage = s.document.paging.chapterPage := by
      show s.abort.1.place.chapterPage = s.place.chapterPage
      rw [hplace]
    rw [hpage, reportsSince_still rfl rfl]
    exact ih fun p hp => hpaging p (List.mem_append_left _ hp)

/-- What has gone out to show a page: the session turns to it, or loads its chapter after opening the document.
-/
inductive AsksFor (s : Session) (i p : Nat) (result : Option (Except SessionError Unit)) :
    List SessionEffect → Prop
  | turn {id : String} : i = s.document.paging.chapterIndex → s.documentId = some id →
    AsksFor s i p result [.ask (.gotoPage id p)]
  | load {model : DocumentModel} {chapter : Chapter} {request : LoadRequest} {sent : List SessionEffect} :
    s.document.paging.model = some model → model.chapters[i]? = some chapter →
    request.path = chapter.path → request.page = p → .ask (.load request) ∈ sent →
    AsksFor s i p result sent
  | opening {model : DocumentModel} {chapter : Chapter} {id : String} {sent : List SessionEffect} :
    s.document.paging.model = some model → model.chapters[i]? = some chapter →
    sent ≠ [] → sent <+: [.openDocument chapter, .register id] → result ≠ some (.ok ()) →
    AsksFor s i p result sent

/-- An operation ends well, for some answers, and has sent nothing. -/
def Skips (s : Session) (op : SessionOperation) : Prop :=
  ∃ hs s' said, (op.chain s).Goes hs (.done s' said (.ok ())) ∧ sent (hs ++ said.map .said) = []

/-- A page is asked for, unless it was reported last since its chapter was opened. -/
def GoesTo (h : List Happening) (s : Session) (page i p : Nat) : Prop :=
  ∀ hs c, ((SessionOperation.gotoPage page).chain s).Goes hs c →
    AsksFor s i p c.result? (sent (hs ++ c.said)) ∨
      sent (hs ++ c.said) = [] ∧ i = s.document.paging.chapterIndex ∧ LastReported opensChapter h p

variable {page i p : Nat}

theorem gotoPage_stops (hplace : (s.document.paging.model.bind fun m => m.locatePage page) = some (i, p))
    (hindex : i = s.document.paging.chapterIndex) (hpage : s.document.paging.chapterPage.1 = p) :
    s.gotoPage page = stop s (.ok ()) := by
  rw [gotoPage, hplace]
  dsimp only
  rw [if_neg (not_not_intro hindex), if_pos hpage]

theorem gotoPage_turns {id : String}
    (hplace : (s.document.paging.model.bind fun m => m.locatePage page) = some (i, p))
    (hindex : i = s.document.paging.chapterIndex) (hpage : s.document.paging.chapterPage.1 ≠ p)
    (hstage : s.lifecycle = .opened) (hid : s.documentId = some id) :
    (s.gotoPage page).Throughout (fun h c => sent (h ++ c.said) = [.ask (.gotoPage id p)]) [] := by
  have hready : s.lifecycle.canBecome .navigating = true := by
    rw [hstage]
    rfl
  rw [gotoPage, hplace]
  dsimp only
  rw [if_neg (not_not_intro hindex), if_neg hpage, turnPage, if_pos hready]
  dsimp only
  rw [hid]
  dsimp only
  rw [settle_eq_attempt]
  apply throughout_attempt
  · rfl
  · intro a e _
    rw [said_failed, sent_append, sent_said, filter_isOut_fail]
    rfl
  · intro a value _
    exact throughout_done rfl

theorem gotoPage_moves (hplace : (s.document.paging.model.bind fun m => m.locatePage page) = some (i, p))
    (hindex : i ≠ s.document.paging.chapterIndex) (hstage : s.lifecycle = .opened) :
    ∃ model chapter, s.document.paging.model = some model ∧ model.chapters[i]? = some chapter ∧
      (s.gotoPage page).Throughout
        (fun h c => Approaches chapter p none
          (s.opened = some chapter.source ∧ s.documentId.isSome = true) c.result? (sent (h ++ c.said))) [] := by
  have hdestination : (SessionOperation.gotoPage page).destination? s = some ⟨none, i, p, none⟩ := by
    rw [destination?, hplace]
    exact if_neg hindex
  have hopens : (SessionOperation.gotoPage page).opens s = true := by
    rw [opens_eq_destination, hdestination, hstage]
    rfl
  obtain ⟨model, hmodel, hlocated⟩ := Option.bind_eq_some_iff.1 hplace
  obtain ⟨hlt, -⟩ := DocumentModel.locatePage_bounds hlocated
  have hchapter : (Destination.start ⟨none, i, p, none⟩ s).document.paging.chapter? =
      some model.chapters[i] := by
    show (s.document.paging.model.bind fun m => m.chapters[i]?) = _
    rw [hmodel]
    exact List.getElem?_eq_getElem hlt
  refine ⟨model, model.chapters[i], hmodel, List.getElem?_eq_getElem hlt, ?_⟩
  have hchain : s.gotoPage page = openChain p none (Destination.start ⟨none, i, p, none⟩ s) :=
    chain_eq_openChain hopens hdestination
  rw [hchain]
  exact openChain_approaches p none hchapter

theorem chain_opened {op : SessionOperation} (hopens : op.opens s = false) :
    (op.chain s).Throughout (fun _ c => c.session.lifecycle = .opened → s.lifecycle = .opened) h := by
  have hcourse := chain_course s op
  generalize op.enters s = stage at hcourse
  generalize op.chain s = c at hcourse ⊢
  cases hcourse with
  | opens ht hready =>
    rw [opens_eq_destination, ht, hready] at hopens
    cases hopens
  | turns page hturns hid => exact fun _ _ _ _ => opened_of_turns hturns
  | strays hturns hid => exact fun _ _ _ _ => opened_of_turns hturns
  | closes hcloses hid =>
    apply throughout_ask
    · exact fun hopened => nomatch hopened
    · intro a
      exact throughout_done fun hopened => nomatch hopened
  | forgets hcloses hid => exact throughout_done fun hopened => nomatch hopened
  | zooms zoom scale hstage hid => exact fun _ _ _ _ => hstage
  | resizes zoom => exact throughout_done id
  | asks haside hid =>
    rw [settle_eq_attempt]
    apply throughout_attempt
    · exact id
    · intro a e _ hopened
      cases hopened
    · intro a value _
      exact throughout_done id
  | stops r => exact throughout_done id

theorem not_takesModel_of_opened {op : SessionOperation} {hs : List Happening} {c : Chain Unit}
    (hgoes : (op.chain s).Goes hs c) (hstage : c.session.lifecycle = .opened) :
    (c.conclusion op).takesModel = false := by
  have hsame : (c.conclusion op).takesModel = (c.conclusion op).drops := by
    cases c with
    | done t said r =>
      cases op with
      | close =>
        cases r with
        | ok _ => rfl
        | error e => cases e <;> rfl
      | _ => rfl
    | awaitOpen | await => rfl
  cases hdrops : (c.conclusion op).drops with
  | false => rw [hsame, hdrops]
  | true =>
    have hcleared := cleared_of_drops hgoes hdrops
    rw [hcleared.lifecycle] at hstage
    cases hstage

/-- The chapter that is open was opened after the model was taken. -/
theorem Run.reports_suffix {host : WidgetHost} (hrun : Run host h s) (hstage : s.lifecycle = .opened) :
    reportsSince opensChapter h <:+ reportsSince takesModel h := by
  induction hrun with
  | create o => cases hstage
  | @operate h hs s c op hrun hgoes ih =>
    rw [reportsSince_operation opensChapter_underWay hgoes,
      reportsSince_operation takesModel_underWay hgoes, not_takesModel_of_opened hgoes hstage]
    have hlast : (c.conclusion op).opensChapter = false := by
      cases c <;> rfl
    cases hopens : op.opens s with
    | true =>
      rw [hlast]
      exact List.nil_suffix
    | false =>
      rw [hlast]
      exact ih (chain_opened (h := []) hopens hs c hgoes hstage)
  | @use h s op hrun ih =>
    obtain ⟨before, hbefore⟩ := ih hstage
    rw [reportsSince_snoc, reportsSince_snoc]
    refine ⟨before, ?_⟩
    show before ++ (reportsSince opensChapter h ++ _) = reportsSince takesModel h ++ _
    rw [← List.append_assoc, hbefore]
  | @cancel h s hrun ih =>
    rw [reportsSince_still rfl rfl, reportsSince_still rfl rfl]
    exact ih hstage
  | abort hrun ih => cases hstage

theorem lastReported_of_suffix {q : Happening → Bool}
    (hsuffix : reportsSince opensChapter h <:+ reportsSince q h) (hlast : LastReported q h p)
    (hreports : reportsSince opensChapter h ≠ []) : LastReported opensChapter h p := by
  obtain ⟨count, hlast⟩ := hlast
  obtain ⟨before, hbefore⟩ := hsuffix
  have hsome := List.getLast?_eq_some_getLast hreports
  rw [← hbefore, List.getLast?_append, hsome, Option.some_or] at hlast
  exact ⟨count, hsome.trans hlast⟩

theorem Run.lastReported_iff {host : WidgetHost} (hrun : Run host h s)
    (hpaging : ∀ p, .document (.paging p) ∉ h) (hp : 0 < p) :
    s.document.paging.chapterPage.1 = p ↔ LastReported takesModel h p := by
  rw [hrun.chapterPage hpaging, LastReported, List.getLastD_eq_getLast?]
  cases (reportsSince takesModel h).getLast? with
  | none =>
    constructor
    · rintro rfl
      exact absurd hp (Nat.lt_irrefl 0)
    · rintro ⟨count, hcount⟩
      cases hcount
  | some r =>
    constructor
    · rintro rfl
      exact ⟨r.2, rfl⟩
    · rintro ⟨count, hcount⟩
      obtain rfl := Option.some.inj hcount
      rfl

theorem goes_of_shown {hs : List Happening} {c : Chain Unit}
    (hplace : (s.document.paging.model.bind fun m => m.locatePage page) = some (i, p))
    (hindex : i = s.document.paging.chapterIndex) (hpage : s.document.paging.chapterPage.1 = p)
    (hgoes : ((SessionOperation.gotoPage page).chain s).Goes hs c) :
    hs = [] ∧ c = stop s (.ok ()) := by
  have hchain : (SessionOperation.gotoPage page).chain s = stop s (.ok ()) :=
    gotoPage_stops hplace hindex hpage
  rw [hchain] at hgoes
  cases hgoes with
  | refl => exact ⟨rfl, rfl⟩
  | step hnext _ => cases hnext

theorem AsksFor.ne_nil {r : Option (Except SessionError Unit)} {out : List SessionEffect}
    (h : AsksFor s i p r out) : out ≠ [] := by
  cases h with
  | turn => exact List.cons_ne_nil _ _
  | load _ _ _ _ hmem => exact List.ne_nil_of_mem hmem
  | opening _ _ hne => exact hne

theorem AsksFor.of_approaches {model : DocumentModel} {chapter : Chapter} {isOpen : Prop}
    {r : Option (Except SessionError Unit)} {out : List SessionEffect} (hp : 0 < p)
    (hmodel : s.document.paging.model = some model) (hchapter : model.chapters[i]? = some chapter)
    (happroaches : Approaches chapter p none isOpen r out) : AsksFor s i p r out := by
  obtain ⟨opening, request, hopening, -, hpath, hpage, hne, hprefix, hload⟩ := happroaches
  rw [if_neg (Int.natCast_ne_zero.2 (Nat.ne_of_gt hp))] at hpage
  have hmem : opening ++ [.ask (.load request)] <+: out → .ask (.load request) ∈ out :=
    fun h => h.subset (List.mem_append_right opening List.mem_cons_self)
  rcases List.prefix_concat_iff.1 hprefix with rfl | hbefore
  · exact .load hmodel hchapter hpath hpage (hmem (List.prefix_refl _))
  · by_cases hok : r = some (.ok ())
    · exact .load hmodel hchapter hpath hpage (hload hok)
    · rcases hopening with rfl | rfl
      · exact absurd (List.prefix_nil.1 hbefore) hne
      · exact .opening hmodel hchapter hne hbefore hok

theorem asksFor_of_goes {hs : List Happening} {c : Chain Unit}
    (hplace : (s.document.paging.model.bind fun m => m.locatePage page) = some (i, p)) (hp : 0 < p)
    (hother : ¬(i = s.document.paging.chapterIndex ∧ s.document.paging.chapterPage.1 = p))
    (hstage : s.lifecycle = .opened) (hsome : s.documentId.isSome = true)
    (hgoes : ((SessionOperation.gotoPage page).chain s).Goes hs c) :
    AsksFor s i p c.result? (sent (hs ++ c.said)) := by
  by_cases hindex : i = s.document.paging.chapterIndex
  · obtain ⟨id, hid⟩ := Option.isSome_iff_exists.1 hsome
    have hpage : s.document.paging.chapterPage.1 ≠ p := fun hpage => hother ⟨hindex, hpage⟩
    have hsent := gotoPage_turns hplace hindex hpage hstage hid hs c hgoes
    rw [List.nil_append] at hsent
    rw [hsent]
    exact .turn hindex hid
  · obtain ⟨model, chapter, hmodel, hchapter, hways⟩ := gotoPage_moves hplace hindex hstage
    exact .of_approaches hp hmodel hchapter (hways hs c hgoes)

theorem not_goesTo_of_unreported
    (hplace : (s.document.paging.model.bind fun m => m.locatePage page) = some (i, p))
    (hindex : i = s.document.paging.chapterIndex) (hpage : s.document.paging.chapterPage.1 = p)
    (hreports : reportsSince opensChapter h = []) : ¬GoesTo h s page i p := by
  intro hgoesTo
  have hchain : (SessionOperation.gotoPage page).chain s = stop s (.ok ()) :=
    gotoPage_stops hplace hindex hpage
  have hgoes : ((SessionOperation.gotoPage page).chain s).Goes [] (.done s [] (.ok ())) := by
    rw [hchain]
    exact .refl _
  rcases hgoesTo [] _ hgoes with hasks | ⟨-, -, count, hlast⟩
  · exact hasks.ne_nil rfl
  · rw [hreports] at hlast
    cases hlast

theorem place_of_locate32? {model : Option DocumentModel}
    (h : (model.bind fun m => DocumentModel.locate32? page 1 0 m.chapters) = some (some (i, p))) :
    (model.bind fun m => m.locatePage page) = some (i, p) := by
  obtain ⟨m, rfl, hsearch⟩ := Option.bind_eq_some_iff.1 h
  exact (DocumentModel.eq_of_locate32? hsearch).symm

/-- Going to a page has nothing to do exactly when its chapter is open and it was reported last since the model
was taken. -/
theorem goesTo_iff {host : WidgetHost} (hrun : Run host h s) (hpaging : ∀ p, .document (.paging p) ∉ h)
    (hstage : s.lifecycle = .opened)
    (hsearch : (s.document.paging.model.bind fun m => DocumentModel.locate32? page 1 0 m.chapters) =
      some (some (i, p))) :
    (Skips s (.gotoPage page) ↔ i = s.document.paging.chapterIndex ∧ LastReported takesModel h p) ∧
    (GoesTo h s page i p ↔
      (i = s.document.paging.chapterIndex → LastReported takesModel h p →
        reportsSince opensChapter h ≠ [])) := by
  have hplace := place_of_locate32? hsearch
  obtain ⟨model, -, hlocated⟩ := Option.bind_eq_some_iff.1 hplace
  obtain ⟨-, hp⟩ := DocumentModel.locatePage_bounds hlocated
  have hsome := hrun.faithful.loaded hstage
  have hknown := hrun.lastReported_iff hpaging hp
  constructor
  · constructor
    · rintro ⟨hs, s', said, hgoes, hsent⟩
      rw [← hknown]
      refine Decidable.byContradiction fun hother => ?_
      have hasks := asksFor_of_goes hplace hp hother hstage hsome hgoes
      exact hasks.ne_nil hsent
    · rintro ⟨hindex, hlast⟩
      have hchain : (SessionOperation.gotoPage page).chain s = stop s (.ok ()) :=
        gotoPage_stops hplace hindex (hknown.2 hlast)
      refine ⟨[], s, [], ?_, rfl⟩
      rw [hchain]
      exact .refl _
  · constructor
    · intro hgoesTo hindex hlast hreports
      exact not_goesTo_of_unreported hplace hindex (hknown.2 hlast) hreports hgoesTo
    · intro hreported hs c hgoes
      by_cases hshown : i = s.document.paging.chapterIndex ∧ LastReported takesModel h p
      · obtain ⟨hindex, hlast⟩ := hshown
        obtain ⟨rfl, rfl⟩ := goes_of_shown hplace hindex (hknown.2 hlast) hgoes
        have hreports := hreported hindex hlast
        exact .inr ⟨rfl, hindex, lastReported_of_suffix (hrun.reports_suffix hstage) hlast hreports⟩
      · rw [← hknown] at hshown
        exact .inl (asksFor_of_goes hplace hp hshown hstage hsome hgoes)

theorem second_page_reports : (DocumentOperation.message "D:kp2,2;").reports = [(2, 2)] := by
  decide +kernel

theorem second_page_reported (host : WidgetHost) (d : Document) :
    (d.handleMessage host "D:kp2,2;").document.paging = { d.paging with chapterPage := (2, 2) } := by
  rw [d.stream_paging host rfl, second_page_reports]
  rfl

theorem run_second_letter {host : WidgetHost} {known : Nat × Nat} (hrun : Run host h s)
    (hstage : s.lifecycle = .opened) (hid : s.documentId = some "7")
    (hopened : s.opened = some ⟨"letter.jrxml", "pt_PT"⟩)
    (hpaging : s.document.paging = ⟨some letters, 0, known, 1, 4, false⟩) :
    ∃ h' s', Run host h' s' ∧ (∀ o, .document o ∈ h' → .document o ∈ h) ∧ s'.lifecycle = .opened ∧
      s'.place = ⟨some letters, 1, known, 1, 4, false⟩ ∧ reportsSince opensChapter h' = [] := by
  let t : Destination := ⟨none, 1, 1, none⟩
  have hdestination : SessionOperation.nextChapter.destination? s = some t := by
    rw [destination?, hpaging]
    rfl
  have hopens : SessionOperation.nextChapter.opens s = true := by
    rw [opens_eq_destination, hdestination, hstage]
    rfl
  have hchain : SessionOperation.nextChapter.chain s = openChain 1 none (t.start s) :=
    chain_eq_openChain hopens hdestination
  have hstart : (t.start s).place = ⟨some letters, 1, known, 1, 4, false⟩ := by
    show (s.document.paging.setChapterIndex 1).setLoading false = _
    rw [hpaging]
    rfl
  have hchapter : (t.start s).document.paging.chapter? =
      some ⟨"second", "letter.jrxml", "pt_PT", true, none, 2⟩ := by
    show (t.start s).place.chapter? = _
    rw [hstart]
    rfl
  obtain ⟨hs, c, hgoes, hloaded⟩ := openChain_loaded 1 hchapter hopened hid rfl
  have hplace : c.session.place = (t.start s).place := openChain_stands (h := []) 1 none _ hs c hgoes
  rw [← hchain] at hgoes
  refine ⟨_, _, hrun.operate .nextChapter hgoes, ?_, hloaded, hplace.trans hstart, ?_⟩
  · intro o ho
    exact document_mem_of_operation hgoes ho
  · rw [reportsSince_operation opensChapter_underWay hgoes, hopens]
    exact if_pos (Bool.or_true _)

theorem run_reported_letter (host : WidgetHost) :
    ∃ h s, Run host h s ∧ (∀ p, .document (.paging p) ∉ h) ∧ s.lifecycle = .opened ∧
      s.place = ⟨some letters, 1, (2, 2), 1, 4, false⟩ ∧ reportsSince opensChapter h = [] := by
  obtain ⟨h, s, hrun, hnone, hstage, hid, hopened, hpaging⟩ := run_letters host
  have hreported : (s.onDocument (Document.handleMessage host "D:kp2,2;")).1.document.paging =
      ⟨some letters, 0, (2, 2), 1, 4, false⟩ := by
    show (s.document.handleMessage host "D:kp2,2;").document.paging = _
    rw [second_page_reported, hpaging]
  obtain ⟨h', s', hrun', hkept, hrest⟩ :=
    run_second_letter (hrun.use (.message "D:kp2,2;")) hstage hid hopened hreported
  refine ⟨h', s', hrun', fun p hp => ?_, hrest⟩
  rcases List.mem_append.1 (hkept _ hp) with hp | hp
  · exact hnone _ hp
  · cases List.mem_singleton.1 hp

/-- A report on another chapter is taken for one on the chapter that is open. -/
theorem not_goesTo_stale :
    ∃ host h s, Run host h s ∧ (∀ p, .document (.paging p) ∉ h) ∧ s.lifecycle = .opened ∧
      (s.document.paging.model.bind fun m => DocumentModel.locate32? 4 1 0 m.chapters) = some (some (1, 2)) ∧
      ¬GoesTo h s 4 1 2 := by
  obtain ⟨h, s, hrun, hpaging, hstage, hstands, hreports⟩ :=
    run_reported_letter ⟨fun _ => none, fun _ _ => .ok (), fun _ box => box⟩
  have hsearch : (s.place.model.bind fun m => DocumentModel.locate32? 4 1 0 m.chapters) = some (some (1, 2)) := by
    rw [hstands]
    rfl
  have hindex : s.place.chapterIndex = 1 := congrArg Paging.chapterIndex hstands
  have hknown : s.place.chapterPage.1 = 2 := congrArg (·.chapterPage.1) hstands
  exact ⟨_, h, s, hrun, hpaging, hstage, hsearch,
    not_goesTo_of_unreported (place_of_locate32? hsearch) hindex.symm hknown hreports⟩

theorem goesTo_iff_reported :
    let host : WidgetHost := ⟨fun _ => none, fun _ _ => .ok (), fun _ box => box⟩
    ∃ h s, Run host h s ∧ (∀ p, .document (.paging p) ∉ h) ∧ s.lifecycle = .opened ∧
      (s.document.paging.model.bind fun m => DocumentModel.locate32? 4 1 0 m.chapters) = some (some (1, 2)) ∧
      GoesTo h s 4 1 2 := by
  intro host
  obtain ⟨h, s, hrun, hpaging, hstage, hstands, -⟩ := run_reported_letter host
  have hagain := hrun.use (.message "D:kp2,2;")
  have hnone : ∀ p, .document (.paging p) ∉ h ++ [.document (.message "D:kp2,2;")] := by
    intro p hp
    rcases List.mem_append.1 hp with hp | hp
    · exact hpaging p hp
    · cases List.mem_singleton.1 hp
  have hsearch : ((s.document.handleMessage host "D:kp2,2;").document.paging.model.bind
      fun m => DocumentModel.locate32? 4 1 0 m.chapters) = some (some (1, 2)) := by
    rw [second_page_reported]
    show (s.place.model.bind fun m => DocumentModel.locate32? 4 1 0 m.chapters) = some (some (1, 2))
    rw [hstands]
    rfl
  have hreported : reportsSince opensChapter (h ++ [.document (.message "D:kp2,2;")]) ≠ [] := by
    have hreports : (Happening.document (.message "D:kp2,2;")).reports = [(2, 2)] :=
      second_page_reports
    rw [reportsSince_snoc, hreports]
    exact List.append_ne_nil_of_right_ne_nil _ (List.cons_ne_nil _ _)
  obtain ⟨-, hgoes⟩ := goesTo_iff hagain hnone hstage hsearch
  exact ⟨_, _, hagain, hnone, hstage, hsearch, hgoes.2 fun _ _ => hreported⟩

end Session

end BandCanvas
