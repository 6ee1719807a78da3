import BandCanvas.Proofs.Document.MenuLine
import BandCanvas.Proofs.Session.Sending
import BandCanvas.Proofs.Session.Whole

namespace BandCanvas

open Chain SessionOperation

namespace Document

/-- What becomes of a document that defines no bands and follows no pointer. -/
structure Retains (d d' : Document) : Prop where
  bands : ∀ id b, d'.bands.find? id = some b → d.bands.find? id = some b
  menu : ∀ id, d'.menuBand = some id → d.menuBand = some id
  stored : d.MenuStored → d'.MenuStored

namespace Retains

variable {d d' d'' : Document}

theorem trans (h : d.Retains d') (h' : d'.Retains d'') : d.Retains d'' where
  bands id b hb := h.bands id b (h'.bands id b hb)
  menu id hid := h.menu id (h'.menu id hid)
  stored hd := h'.stored (h.stored hd)

theorem aside (hbands : d'.bands = d.bands) (hmenu : d'.menuBand = d.menuBand)
    (heditable : d'.editable = d.editable) : d.Retains d' where
  bands id b hb := hbands ▸ hb
  menu id hid := hmenu ▸ hid
  stored hd id hid := by
    rw [heditable, hbands]
    exact hd id (hmenu ▸ hid)

theorem dropped (hbands : d'.bands = BandStore.empty) (hmenu : d'.menuBand = none) : d.Retains d' where
  bands _ _ hb := nomatch hbands ▸ hb
  menu _ hid := nomatch hmenu ▸ hid
  stored _ _ hid := nomatch hmenu ▸ hid

theorem setEditable (editable : Bool) (d : Document) : d.Retains (d.setEditable editable).document where
  bands id b hb := by
    rw [setEditable_bands] at hb
    exact hb
  menu id hid := by
    cases editable with
    | true => exact hid
    | false =>
      have hnone := hideMenu_menuBand { d with editable := false }
      cases hnone.symm.trans hid
  stored := (setEditable_menu editable d).stored

end Retains

end Document

open Document

namespace Chain

variable {α β : Type} {d : Document} {h : List Happening} {s : Session} {said : List SessionEffect}
  {request : SessionRequest}

/-- An operation that comes to a document with the bands and the menu of another one. -/
def Retaining (d : Document) (_ : List Happening) (c : Chain α) : Prop :=
  d.Retains c.session.document

theorem fail_retains (e : SessionError) (s : Session) : d.Retains (s.fail e).1.document :=
  .dropped s.clear_cleared.bands s.clear_cleared.menuBand

theorem retaining_done {r : Except SessionError α} (hs : d.Retains s.document) :
    (Chain.done s said r).Throughout (Retaining d) h :=
  throughout_done hs

theorem retaining_attempt {verdict : Session → Answer Json → Except SessionError β}
    {next : Session → Chain α} (hs : d.Retains s.document)
    (hnext : ∀ (a : Answer Json) h, (next (s.answered a)).Throughout (Retaining d) h) :
    (attempt s said request verdict next).Throughout (Retaining d) h := by
  apply throughout_attempt (P := Retaining d) hs
  · intro a e _
    exact fail_retains e _
  · intro a value _
    exact hnext a _

theorem retaining_attemptOpen {chapter : Chapter} {next : Session → OpenedDocument → Chain Unit}
    (hs : d.Retains s.document)
    (hnext : ∀ (a : Answer OpenedDocument) o h, (next (s.answered a) o).Throughout (Retaining d) h) :
    (attemptOpen s said chapter next).Throughout (Retaining d) h := by
  apply throughout_attemptOpen (Q := Retaining d) hs
  · intro a e _
    exact fail_retains e _
  · intro a o _
    exact hnext a o _

end Chain

namespace Session

variable {d : Document} {h : List Happening} {s : Session} {said : List SessionEffect}

theorem showChapter_retains (chapter : Chapter) (scale : Float) (hs : d.Retains s.document) :
    d.Retains (s.showChapter chapter scale).1.document :=
  hs.trans ((Retains.setEditable chapter.editable s.document).trans (.aside rfl rfl rfl))

theorem blank_retains (hs : d.Retains s.document) : d.Retains s.blank.1.document := by
  have hloading : s.document.Retains (s.mapPaging (Paging.setLoading true)).document := .aside rfl rfl rfl
  exact (hs.trans hloading).trans ((Retains.setEditable false _).trans (.aside rfl rfl rfl))

theorem load_retaining (chapter : Chapter) (page : Int) (postLoad : Option String) (id : String)
    (hs : d.Retains s.document) :
    (load chapter page postLoad id s said).Throughout (Retaining d) h := by
  apply retaining_attempt hs
  intro a h
  have hanswered : d.Retains (s.answered a).document := hs
  have hshown := showChapter_retains chapter s.document.scale.toCanvas hanswered
  cases postLoad with
  | none => exact retaining_done hshown
  | some text =>
    rw [arrive_some]
    apply retaining_attempt hshown
    intro a h
    exact retaining_done hshown

theorem openChain_retaining (page : Int) (postLoad : Option String) (hs : d.Retains s.document) :
    (openChain page postLoad s).Throughout (Retaining d) h := by
  have hblank := blank_retains hs
  have hway := openChain_way page postLoad s
  generalize openChain page postLoad s = c at hway ⊢
  cases hway with
  | nowhere hchapter =>
    have hfailed := fail_retains (d := d) (.protocol ["document has no chapters"]) s
    exact retaining_done hfailed
  | stays hchapter hopened hid => exact load_retaining _ _ _ _ hblank
  | opens hchapter hother =>
    apply retaining_attemptOpen hblank
    intro a o h
    exact load_retaining _ _ _ _ (hblank.trans (.aside rfl rfl rfl))

theorem finishClose_retaining (result : Except SessionError Unit) (s : Session) :
    (finishClose result s).Throughout (Retaining d) h :=
  retaining_done (.dropped s.clear_cleared.bands s.clear_cleared.menuBand)

/-- Operations of the session define no bands, and never bring the menu to one. -/
theorem chain_retaining (op : SessionOperation) (s : Session) :
    (op.chain s).Throughout (Retaining s.document) h := by
  have hself : s.document.Retains s.document := .aside rfl rfl rfl
  have hcourse := chain_course s op
  generalize op.enters s = stage at hcourse
  generalize op.chain s = c at hcourse ⊢
  cases hcourse with
  | @opens t ht hready =>
    apply openChain_retaining
    show s.document.Retains (t.document s)
    rw [Destination.document]
    cases t.model <;> exact .aside rfl rfl rfl
  | turns page hturns hid =>
    rw [settle_eq_attempt]
    exact retaining_attempt (.aside rfl rfl rfl) fun a h => retaining_done (.aside rfl rfl rfl)
  | strays hturns hid => exact retaining_done hself
  | closes hcloses hid =>
    refine throughout_ask (P := Retaining s.document) hself ?_
    intro a
    exact finishClose_retaining _ _
  | forgets hcloses hid => exact finishClose_retaining _ _
  | zooms zoom scale hstage hid =>
    rw [settle_eq_attempt]
    exact retaining_attempt (.aside rfl rfl rfl) fun a h => retaining_done (.aside rfl rfl rfl)
  | resizes zoom => exact retaining_done (.aside rfl rfl rfl)
  | asks haside hid =>
    rw [settle_eq_attempt]
    exact retaining_attempt hself fun a h => retaining_done hself
  | stops r => exact retaining_done hself

end Session

namespace Happening

def defined : Happening → List Band
  | .document op => op.defined
  | _ => []

def definedIn (h : List Happening) : List Band :=
  h.flatMap defined

theorem definedIn_append (h h' : List Happening) : definedIn (h ++ h') = definedIn h ++ definedIn h' :=
  List.flatMap_append

theorem defined_of_underWay {x : Happening} (hx : x.isUnderWay = true) : x.defined = [] := by
  cases x with
  | said | opened | answered => rfl
  | _ => cases hx

theorem definedIn_operation {c d : Chain Unit} {hs : List Happening} {op : SessionOperation} {opens : Bool}
    (hgoes : c.Goes hs d) : definedIn (.began op opens :: (hs ++ d.said ++ [d.conclusion op])) = [] := by
  apply List.flatMap_eq_nil_iff.2
  intro x hx
  rcases List.mem_cons.1 hx with rfl | hx
  · rfl
  · rcases List.mem_append.1 hx with hx | hx
    · exact defined_of_underWay (List.forall_mem_append.2 ⟨hgoes.underWay, d.said_underWay⟩ x hx)
    · rw [List.mem_singleton.1 hx]
      cases d <;> rfl

end Happening

namespace Session

open Happening

/-- What can happen next to a session. -/
inductive Happens (host : WidgetHost) : Session → List Happening → Session → Prop
  | operate {s : Session} {hs : List Happening} {c : Chain Unit} (op : SessionOperation) :
    (op.chain s).Goes hs c →
    Happens host s (.began op (op.opens s) :: (hs ++ c.said ++ [c.conclusion op])) c.session
  | use (s : Session) (op : DocumentOperation) :
    Happens host s [.document op] (s.onDocument (op.run host)).1
  | cancel (s : Session) : Happens host s [.cancelled] { s with cancelled := true }
  | abort (s : Session) : Happens host s [.aborted] s.abort.1

/-- What becomes of a session, whatever happens. -/
inductive Later (host : WidgetHost) : Session → List Happening → Session → Prop
  | refl (s : Session) : Later host s [] s
  | next {r s s' : Session} {h hs : List Happening} :
    Later host r h s → Happens host s hs s' → Later host r (h ++ hs) s'

variable {host : WidgetHost} {h hs since : List Happening} {r s s' : Session} {id : Int} {b : Band}

theorem Run.induct {P : List Happening → Session → Prop} (hrun : Run host h s)
    (hcreate : ∀ o : DocumentOptions, P [] (Session.create (Document.create o).document))
    (hnext : ∀ h s hs s', Run host h s → P h s → Happens host s hs s' → P (h ++ hs) s') : P h s := by
  induction hrun with
  | create o => exact hcreate o
  | operate op hrun hgoes ih => exact hnext _ _ _ _ hrun ih (.operate op hgoes)
  | use op hrun ih => exact hnext _ _ _ _ hrun ih (.use _ op)
  | cancel hrun ih => exact hnext _ _ _ _ hrun ih (.cancel _)
  | abort hrun ih => exact hnext _ _ _ _ hrun ih (.abort _)

theorem retains_of_goes {op : SessionOperation} {c : Chain Unit} (hgoes : (op.chain s).Goes hs c) :
    s.document.Retains c.session.document := by
  have hthroughout := chain_retaining (h := []) op s
  exact hthroughout hs c hgoes

theorem Happens.find? (hnext : Happens host s hs s') (hb : s'.document.bands.find? id = some b) :
    (Band.last? id (definedIn hs)).or (s.document.bands.find? id) = some b := by
  cases hnext with
  | operate op hgoes =>
    rw [definedIn_operation hgoes]
    exact (retains_of_goes hgoes).bands id b hb
  | use op =>
    have hdefined : definedIn [.document op] = op.defined := List.append_nil _
    rw [hdefined]
    exact operation_find? op hb
  | cancel => exact hb
  | abort => cases s.abort_cleared.bands ▸ hb

theorem Happens.menu (hnext : Happens host s hs s') (hid : s'.document.menuBand = some id) :
    s.document.menuBand = some id ∨
      s'.document.HasLine id ∧ ∃ op, hs = [.document op] ∧ s' = (s.onDocument (op.run host)).1 := by
  cases hnext with
  | operate op hgoes => exact .inl ((retains_of_goes hgoes).menu id hid)
  | use op =>
    apply (operation_brings op s.document id hid).imp_right
    intro hline
    exact ⟨hline, op, rfl, rfl⟩
  | cancel => exact .inl hid
  | abort => cases s.abort_cleared.menuBand ▸ hid

theorem Happens.menuStored (hnext : Happens host s hs s') (hstored : s.document.MenuStored) :
    s'.document.MenuStored := by
  cases hnext with
  | operate op hgoes => exact (retains_of_goes hgoes).stored hstored
  | use op => exact (operation_menu op s.document).stored hstored
  | cancel => exact hstored
  | abort => exact fun _ hid => nomatch s.abort_cleared.menuBand ▸ hid

theorem Run.menuStored (hrun : Run host h s) : s.document.MenuStored := by
  apply hrun.induct (P := fun _ s => s.document.MenuStored)
  · intro o
    exact (create_menu o).2
  · intro h s hs s' _ ih hnext
    exact hnext.menuStored ih

theorem Later.find? (hlater : Later host r since s) (hb : s.document.bands.find? id = some b) :
    (Band.last? id (definedIn since)).or (r.document.bands.find? id) = some b := by
  induction hlater generalizing b with
  | refl => exact hb
  | next _ hnext ih =>
    have hbefore := hnext.find? hb
    rw [definedIn_append, Band.last?_append, Option.or_assoc]
    cases hlast : Band.last? id (definedIn _) with
    | some a =>
      rw [hlast] at hbefore
      exact hbefore
    | none =>
      rw [hlast] at hbefore
      exact ih hbefore

/-- The menu came to a band in an operation of the document. The rest has happened since. -/
def MenuSince (host : WidgetHost) (h : List Happening) (s : Session) (id : Int) (since : List Happening) :
    Prop :=
  ∃ h₀ r op, Run host h₀ r ∧ h = h₀ ++ .document op :: since ∧ r.document.menuBand ≠ some id ∧
    (op.run host r.document).document.menuBand = some id ∧
    Later host (r.onDocument (op.run host)).1 since s

theorem Run.exists_menuSince (hrun : Run host h s) (hid : s.document.menuBand = some id) :
    ∃ since, MenuSince host h s id since := by
  apply hrun.induct (P := fun h s => s.document.menuBand = some id → ∃ since, MenuSince host h s id since)
  · intro o hid
    cases hid
  · intro h s hs s' hrun ih hnext hid
    by_cases hbefore : s.document.menuBand = some id
    · obtain ⟨since, h₀, r, op, hrun₀, rfl, hne, hcame, hlater⟩ := ih hbefore
      refine ⟨since ++ hs, h₀, r, op, hrun₀, ?_, hne, hcame, hlater.next hnext⟩
      rw [List.append_assoc, List.cons_append]
    · obtain ⟨-, op, rfl, rfl⟩ := (hnext.menu hid).resolve_left hbefore
      exact ⟨[], h, s, op, hrun, rfl, hbefore, hid, .refl _⟩
  · exact hid

/-- The band of the menu was defined last since the menu came to it, or may have a menu. -/
theorem MenuSince.isDetail_iff (hsince : MenuSince host h s id since)
    (hb : s.document.bands.find? id = some b) :
    b.isDetail = true ↔ (Band.last? id (definedIn since)).all Band.isDetail = true := by
  obtain ⟨h₀, r, op, -, -, hne, hcame, hlater⟩ := hsince
  obtain ⟨-, line, hline, hdetail⟩ := (operation_brings op r.document id hcame).resolve_left hne
  have hlast := hlater.find? hb
  rw [show (r.onDocument (op.run host)).1.document.bands.find? id = some line from hline] at hlast
  cases hdefined : Band.last? id (definedIn since) with
  | none =>
    rw [hdefined] at hlast
    obtain rfl := Option.some.inj hlast
    exact iff_of_true hdetail rfl
  | some a =>
    rw [hdefined] at hlast
    obtain rfl := Option.some.inj hlast
    exact Iff.rfl

theorem onMenuBand_asks {id : String} (request : String → Band → SessionRequest)
    (hmenu : s.menuBand? = some b) (hid : s.documentId = some id) :
    ((s.onMenuBand request).map fun _ => ()).Throughout
      (fun h c => sent (h ++ c.said) = [.ask (request id b)]) [] := by
  rw [onMenuBand, hmenu]
  dsimp only
  rw [hid]
  dsimp only
  rw [map_settle, settle_eq_attempt]
  apply throughout_attempt
  · rfl
  · intro a e _
    rw [said_failed, sent_append, sent_said, filter_isOut_fail]
    rfl
  · intro a value _
    exact throughout_done rfl

/-- Only a request about the band of the menu goes out. -/
theorem onMenuBand_sends {c : Chain Unit} {r : SessionRequest} (request : String → Band → SessionRequest)
    (hgoes : ((s.onMenuBand request).map fun _ => ()).Goes hs c) (hr : .ask r ∈ sent (hs ++ c.said)) :
    ∃ id b, s.documentId = some id ∧ s.menuBand? = some b ∧ r = request id b := by
  have hstops : ∀ result, (s.onMenuBand request).map (fun _ => ()) = stop s result → False := by
    intro result hstop
    rw [hstop] at hgoes
    cases hgoes with
    | refl => cases hr
    | step hnext => cases hnext
  cases hmenu : s.menuBand? with
  | none =>
    rw [onMenuBand, hmenu] at hstops
    exact (hstops _ rfl).elim
  | some b =>
    cases hid : s.documentId with
    | none =>
      rw [onMenuBand, hmenu] at hstops
      dsimp only at hstops
      rw [hid] at hstops
      exact (hstops _ rfl).elim
    | some id =>
      have hsent := onMenuBand_asks request hmenu hid hs c hgoes
      rw [List.nil_append] at hsent
      rw [hsent] at hr
      have heq := List.mem_singleton.1 hr
      exact ⟨id, b, rfl, rfl, SessionEffect.ask.inj heq⟩

end Session

def SessionRequest.band? : SessionRequest → Option Int
  | .addBand _ _ band | .deleteBand _ _ band => some band
  | _ => none

/-- A request is about a line that may have a menu, in a document that can be edited. -/
def Document.NamesLine (d : Document) (r : SessionRequest) : Prop :=
  ∃ id, r.band? = some id ∧ d.HasLine id

namespace Session

open Happening

variable {host : WidgetHost} {h hs : List Happening} {s : Session} {op : SessionOperation}
  {c : Chain Unit} {r : SessionRequest}

theorem line_sends (hop : op = .addLine ∨ op = .removeLine) (hgoes : (op.chain s).Goes hs c)
    (hr : .ask r ∈ sent (hs ++ c.said)) : ∃ b, r.band? = some b.id ∧ s.menuBand? = some b := by
  rcases hop with rfl | rfl
  · obtain ⟨id, b, -, hmenu, rfl⟩ := onMenuBand_sends _ hgoes hr
    exact ⟨b, rfl, hmenu⟩
  · obtain ⟨id, b, -, hmenu, rfl⟩ := onMenuBand_sends _ hgoes hr
    exact ⟨b, rfl, hmenu⟩

/-- A request about a line names the band of the menu, a line unless it was defined anew as something else
since. -/
theorem namesLine_iff (hrun : Run host h s) (hop : op = .addLine ∨ op = .removeLine)
    (hgoes : (op.chain s).Goes hs c) (hr : .ask r ∈ sent (hs ++ c.said)) :
    ∃ b, r.band? = some b.id ∧ s.document.menuBand = some b.id ∧
      s.document.bands.find? b.id = some b ∧ s.document.editable = true ∧
      (∃ since, MenuSince host h s b.id since) ∧
      ∀ since, MenuSince host h s b.id since →
        (s.document.NamesLine r ↔ (Band.last? b.id (definedIn since)).all Band.isDetail = true) := by
  obtain ⟨b, hband, hmenu⟩ := line_sends hop hgoes hr
  obtain ⟨id, hid, hfind⟩ := Option.bind_eq_some_iff.1 hmenu
  obtain ⟨-, rfl⟩ := BandStore.find?_eq_some_iff.1 hfind
  obtain ⟨heditable, -⟩ := hrun.menuStored b.id hid
  refine ⟨b, hband, hid, hfind, heditable, hrun.exists_menuSince hid, ?_⟩
  intro since hsince
  rw [← hsince.isDetail_iff hfind]
  constructor
  · rintro ⟨id, hid, -, line, hline, hdetail⟩
    obtain rfl := Option.some.inj (hband.symm.trans hid)
    obtain rfl := Option.some.inj (hfind.symm.trans hline)
    exact hdetail
  · intro hdetail
    exact ⟨b.id, hband, heditable, b, hfind, hdetail⟩

def letterLine : Band :=
  ⟨1, "DT", true, 10, 0, 0, "D:B2,DT,1,t,10,0,0;", 19⟩

def letterHeading : Band :=
  ⟨1, "HD", false, 10, 0, 0, "D:B2,HD,1,f,10,0,0;", 19⟩

theorem handleMessage_letterLine (host : WidgetHost) (d : Document) :
    (d.handleMessage host letterLine.source).document = { d with bands := d.bands.upsert letterLine } := by
  have hstep : (Fragment.cursor ⟨letterLine.source, 2⟩).step =
      some (.ok (.band ⟨true, "DT", 1, true, 10, 0, 0⟩), ⟨19, some ';', []⟩) := rfl
  exact (handleMessage_band rfl hstep rfl d).2

theorem handleMessage_letterHeading (host : WidgetHost) (d : Document) :
    (DocumentOperation.message letterHeading.source).defined = [letterHeading] ∧
      (d.handleMessage host letterHeading.source).document =
        { d with bands := d.bands.upsert letterHeading } := by
  have hstep : (Fragment.cursor ⟨letterHeading.source, 2⟩).step =
      some (.ok (.band ⟨true, "HD", 1, false, 10, 0, 0⟩), ⟨19, some ';', []⟩) := rfl
  exact handleMessage_band rfl hstep rfl d

theorem pointerMoved_letterLine {d : Document} (hvisible : d.overlay.visible = false)
    (heditable : d.editable = true) (hmenu : d.menuBand = none) (hscale : d.scale = ⟨1, 595, 842, 1⟩)
    (hbands : d.bands = BandStore.empty.upsert letterLine) :
    (d.pointerMoved 5).document = { d with menuBand := some 1 } := by
  have hfinite : d.scale.toDocument.isFinite = true := by
    rw [hscale]
    decide +kernel
  have hheight : d.scale.cssToDevice 5 = 5 := by
    rw [hscale]
    decide
  have hfound : d.bands.findAtY? 5 = some letterLine := by
    rw [hbands]
    exact BandStore.findAtY?_single (by decide) (by decide) (by decide) (by decide)
  have htarget : d.menuTarget? (d.scale.cssToDevice 5) = some letterLine := by
    rw [hheight, menuTarget?, hfound]
    rfl
  exact pointerMoved_line hvisible hfinite heditable htarget hmenu

theorem run_letter (host : WidgetHost) :
    ∃ h s, Run host h s ∧ s.documentId = some "7" ∧ s.document.overlay.visible = false ∧
      s.document.editable = true ∧ s.document.menuBand = none ∧
      s.document.scale = ⟨1, 595, 842, 1⟩ ∧ s.document.bands = BandStore.empty := by
  obtain ⟨h, hrun, -⟩ := run_letterSession host
  exact ⟨h, letterSession, hrun, rfl, rfl, rfl, rfl, rfl, rfl⟩

theorem run_letterHeading (host : WidgetHost) :
    ∃ h s, Run host h s ∧ s.documentId = some "7" ∧ s.menuBand? = some letterHeading ∧
      MenuSince host h s 1 [.document (.message letterHeading.source)] := by
  obtain ⟨h, s, hrun, hid, hvisible, heditable, hmenu, hscale, hbands⟩ := run_letter host
  let lined : Document := { s.document with bands := s.document.bands.upsert letterLine }
  have hline : (s.document.handleMessage host letterLine.source).document = lined :=
    handleMessage_letterLine host s.document
  have hmoved : (lined.pointerMoved 5).document = { lined with menuBand := some 1 } :=
    pointerMoved_letterLine hvisible heditable hmenu hscale (congrArg (BandStore.upsert letterLine) hbands)
  have hheading := (handleMessage_letterHeading host { lined with menuBand := some 1 }).2
  have hfound : ∀ t : Session, t.document = { lined with
      menuBand := some 1, bands := lined.bands.upsert letterHeading } →
      t.menuBand? = some letterHeading := by
    intro t ht
    rw [menuBand?, ht]
    exact BandStore.find?_eq_some_iff.2 ⟨BandStore.mem_upsert_self letterHeading lined.bands, rfl⟩
  have hlined := hrun.use (.message letterLine.source)
  have hlast := (hlined.use (.pointer 5)).use (.message letterHeading.source)
  refine ⟨_, _, hlast, hid, ?_, _, _, .pointer 5, hlined, ?_, ?_, ?_, ?_⟩
  · apply hfound
    show (((s.document.handleMessage host letterLine.source).document.pointerMoved
      5).document.handleMessage host letterHeading.source).document = _
    rw [hline, hmoved, hheading]
  · rw [List.append_assoc]
    rfl
  · show (s.document.handleMessage host letterLine.source).document.menuBand ≠ some 1
    rw [hline, show lined.menuBand = none from hmenu]
    exact nofun
  · show ((s.document.handleMessage host letterLine.source).document.pointerMoved
      5).document.menuBand = some 1
    rw [hline, hmoved]
  · exact .next (.refl _) (.use _ _)

theorem addLine_letterHeading {s : Session} (hid : s.documentId = some "7")
    (hmenu : s.menuBand? = some letterHeading) :
    ∃ hs c, (SessionOperation.addLine.chain s).Goes hs c ∧
      .ask (.addBand "7" "HD" 1) ∈ sent (hs ++ c.said) := by
  refine ⟨[], _, .refl _, ?_⟩
  have hsent := onMenuBand_asks (fun id band => .addBand id band.kind band.id) hmenu hid [] _ (.refl _)
  exact hsent ▸ List.mem_singleton_self _

theorem namesLine_iff_heading :
    ∃ host h s hs c r, Run host h s ∧ (SessionOperation.addLine.chain s).Goes hs c ∧
      .ask r ∈ sent (hs ++ c.said) ∧ ¬s.document.NamesLine r := by
  obtain ⟨h, s, hrun, hid, hmenu, hsince⟩ := run_letterHeading widgetless
  obtain ⟨hs, c, hgoes, hsent⟩ := addLine_letterHeading hid hmenu
  obtain ⟨b, hband, -, -, -, -, hiff⟩ := namesLine_iff hrun (.inl rfl) hgoes hsent
  obtain hb : (1 : Int) = b.id := Option.some.inj hband
  have hdefined : definedIn [.document (.message letterHeading.source)] = [letterHeading] :=
    (List.append_nil _).trans (handleMessage_letterHeading widgetless s.document).1
  refine ⟨_, h, s, hs, c, _, hrun, hgoes, hsent, ?_⟩
  rw [hiff _ (hb ▸ hsince), hdefined, ← hb]
  decide

/-- Requests about lines need not name lines. -/
theorem not_namesLine_heading :
    ¬∀ (host : WidgetHost) (h hs : List Happening) (s : Session) (c : Chain Unit) (r : SessionRequest),
      Run host h s → (SessionOperation.addLine.chain s).Goes hs c → .ask r ∈ sent (hs ++ c.said) →
      s.document.NamesLine r := by
  intro hall
  obtain ⟨h, s, hrun, hid, hmenu, -⟩ := run_letterHeading widgetless
  obtain ⟨hs, c, hgoes, hsent⟩ := addLine_letterHeading hid hmenu
  obtain ⟨id, hband, -, line, hline, hdetail⟩ := hall _ h hs s c _ hrun hgoes hsent
  obtain rfl : (1 : Int) = id := Option.some.inj hband
  obtain ⟨menu, -, hfind⟩ := Option.bind_eq_some_iff.1 hmenu
  obtain ⟨-, rfl⟩ := BandStore.find?_eq_some_iff.1 hfind
  obtain rfl := Option.some.inj (hfind.symm.trans hline)
  cases hdetail

end Session

end BandCanvas
