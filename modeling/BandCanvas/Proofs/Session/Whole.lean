import BandCanvas.Proofs.Document.Unattended
import BandCanvas.Proofs.Session.Chain

namespace BandCanvas

namespace SessionEffect

def isLoadError : SessionEffect → Bool
  | .document e => e.isLoadError
  | _ => false

def isRequest : SessionEffect → Bool
  | .openDocument _ | .ask _ => true
  | _ => false

end SessionEffect

namespace Session

structure Loaded (s : Session) : Prop where
  documentId : s.documentId.isSome = true
  opened : s.opened.isSome = true
  documentScale : s.documentScale.isSome = true
  loading : s.document.paging.loading = false

structure Cleared (s : Session) : Prop where
  lifecycle : s.lifecycle = .closed
  documentId : s.documentId = none
  opened : s.opened = none
  documentScale : s.documentScale = none
  loading : s.document.paging.loading = false
  bands : s.document.bands = BandStore.empty
  images : s.document.images = ImageCache.empty
  binding : s.document.overlay.binding = EditorBinding.empty
  active : s.document.overlay.active = none
  visible : s.document.overlay.visible = false
  pending : s.document.pending = none
  deadline : s.document.timer.deadline = none
  menuBand : s.document.menuBand = none
  editable : s.document.editable = false

/-- Open with a chapter that is loaded, or closed. -/
inductive Whole (s : Session) : Prop
  | opened (stage : s.lifecycle = .opened) (loaded : s.Loaded)
  | closed (stage : s.lifecycle = .closed) (documentId : s.documentId = none)
    (opened : s.opened = none) (documentScale : s.documentScale = none)
    (loading : s.document.paging.loading = false)

/-- No failed loading is reported. -/
def Silent (said : List SessionEffect) : Prop :=
  ∀ e ∈ said, e.isLoadError = false

/-- The session is cleared. The error was reported as the last thing that was said, and only there. -/
def Failed (s : Session) (said : List SessionEffect) (e : SessionError) : Prop :=
  s.Cleared ∧ ∃ before, Silent before ∧ said = before ++ [.document (.event (.loadError e.message))]

def Ended {α : Type} (s : Session) (said : List SessionEffect) : Except SessionError α → Prop
  | .ok _ => s.Whole
  | .error e => s.Failed said e

section Silent

variable {s : Session} {said more : List SessionEffect}

theorem silent_nil : Silent [] :=
  List.forall_mem_nil _

theorem Silent.append (h : Silent said) (h' : Silent more) : Silent (said ++ more) :=
  fun e he => (List.mem_append.1 he).elim (h e) (h' e)

theorem Silent.cons {e : SessionEffect} (he : e.isLoadError = false) (h : Silent said) :
    Silent (e :: said) :=
  List.forall_mem_cons.2 ⟨he, h⟩

theorem silent_onDocument {f : Document → Outcome} (hf : ∀ d : Document, d.Unattended (f d))
    (s : Session) : Silent (s.onDocument f).2 := by
  intro e he
  obtain ⟨said, hsaid, rfl⟩ := List.mem_map.1 he
  exact (hf s.document).silent said hsaid

theorem Ended.after {α : Type} {r : Except SessionError α} (hsaid : Silent said)
    (h : s.Ended more r) : s.Ended (said ++ more) r := by
  cases r with
  | ok a => exact h
  | error e =>
    obtain ⟨hcleared, before, hbefore, rfl⟩ := h
    refine ⟨hcleared, said ++ before, hsaid.append hbefore, ?_⟩
    rw [List.append_assoc]

end Silent

section Clearing

variable (s : Session)

theorem Cleared.whole {s : Session} (h : s.Cleared) : s.Whole :=
  .closed h.lifecycle h.documentId h.opened h.documentScale h.loading

theorem Loaded.whole {s : Session} (h : s.Loaded) : { s with lifecycle := .opened }.Whole :=
  .opened rfl { h with }

theorem Loaded.answered {α : Type} {s : Session} (h : s.Loaded) (a : Answer α) :
    (s.answered a).Loaded :=
  { h with }

def emptied (d : Document) : Outcome :=
  d.reset.andThen (Document.setEditable false)

theorem emptied_unattended (d : Document) : d.Unattended (emptied d) :=
  d.reset_unattended.andThen fun d => d.setEditable_unattended false

theorem emptied_document (d : Document) :
    (emptied d).document =
      { d with
        bands := BandStore.empty, images := ImageCache.empty, timer := d.timer.cancel,
        overlay := d.overlay.unbound, pending := none, editable := false, menuBand := none } := by
  have hreset : d.reset.document =
      { d.hideMenu.document with
        bands := BandStore.empty, images := ImageCache.empty, timer := d.hideMenu.document.timer.cancel,
        overlay := d.hideMenu.document.overlay.unbound, pending := none } := rfl
  have heditable : (emptied d).document =
      { d.reset.document with editable := false }.hideMenu.document := rfl
  rw [heditable, Document.hideMenu_document, hreset, Document.hideMenu_document]

theorem clear_cleared : s.clear.1.Cleared := by
  have hdocument : s.clear.1.document =
      { (emptied s.document).document with
        paging := (emptied s.document).document.paging.setLoading false } := rfl
  rw [emptied_document] at hdocument
  constructor
  case lifecycle | documentId | opened | documentScale | loading => rfl
  all_goals rw [hdocument]
  all_goals rfl

theorem clear_silent : Silent s.clear.2 :=
  silent_onDocument emptied_unattended s

theorem abort_cleared : s.abort.1.Cleared :=
  clear_cleared _

end Clearing

theorem fail_failed (e : SessionError) (s : Session) : (s.fail e).1.Failed (s.fail e).2 e :=
  ⟨s.clear_cleared, s.clear.2, s.clear_silent, rfl⟩

end Session

namespace Chain

open Session

variable {α : Type} {s : Session} {said : List SessionEffect}

/-- Whatever is answered, the operation ends whole, or fails. -/
def Sound (c : Chain α) : Prop :=
  c.Always Session.Ended

theorem Sound.after {c : Chain α} (h : c.Sound) (hsaid : Silent said) :
    c.Always (Chain.after said Session.Ended) :=
  h.mono fun _ _ _ hended => hended.after hsaid

theorem failed_sound (e : SessionError) (s : Session) (hsaid : Silent said) :
    (failed s said e : Chain α).Sound := by
  have hended : (s.fail e).1.Ended (s.fail e).2 (.error e : Except SessionError α) := fail_failed e s
  exact hended.after hsaid

theorem ask_sound {request : SessionRequest} {resume : Session → Answer Json → Chain α}
    (hsaid : Silent said) (h : ∀ a, (resume (s.answered a) a).Sound) :
    (ask s said request resume).Sound :=
  fun a => (h a).after (hsaid.append (silent_nil.cons rfl))

theorem settle_sound {request : SessionRequest} {next : Session → Chain α} (hsaid : Silent said)
    (h : ∀ a : Answer Json, (next (s.answered a)).Sound) : (settle s said request next).Sound := by
  refine ask_sound hsaid fun a => ?_
  split
  · exact failed_sound _ _ silent_nil
  · exact failed_sound _ _ silent_nil
  · exact h a

end Chain

namespace Session

open Chain

variable {s : Session} {said : List SessionEffect}

theorem sendCommand_sound (id text : String) (hloaded : s.Loaded) (hsaid : Silent said) :
    (sendCommand id text s said).Sound := by
  refine ask_sound hsaid fun a => ?_
  split
  · exact failed_sound _ _ silent_nil
  · split
    · exact failed_sound _ _ silent_nil
    · exact failed_sound _ _ silent_nil
    · exact (hloaded.answered a).whole

theorem showChapter_loaded (chapter : Chapter) (scale : Float) (hid : s.documentId.isSome = true)
    (hopened : s.opened.isSome = true) : (s.showChapter chapter scale).1.Loaded :=
  ⟨hid, hopened, rfl, rfl⟩

theorem showChapter_silent (chapter : Chapter) (scale : Float) (s : Session) :
    Silent (s.showChapter chapter scale).2 := by
  have hshown : ∀ d : Document,
      d.Unattended ((d.setEditable chapter.editable).andThen Document.repaint) := fun d =>
    (d.setEditable_unattended chapter.editable).andThen Document.repaint_unattended
  exact (silent_onDocument hshown s).append (silent_nil.cons rfl)

theorem loadChapter_sound (chapter : Chapter) (page : Int) (postLoad : Option String)
    (hopened : s.opened.isSome = true) (hsaid : Silent said) :
    (loadChapter chapter page postLoad s said).Sound := by
  rw [loadChapter]
  split
  next => exact failed_sound _ _ hsaid
  next id hid =>
    refine ask_sound hsaid fun a => ?_
    split
    · exact failed_sound _ _ silent_nil
    · split
      · exact failed_sound _ _ silent_nil
      · split
        · exact failed_sound _ _ silent_nil
        · have hsome : (s.answered a).documentId.isSome = true := by
            show s.documentId.isSome = true
            rw [hid]
            rfl
          have hloaded := showChapter_loaded chapter s.document.scale.toCanvas hsome hopened
          have hsilent := showChapter_silent chapter s.document.scale.toCanvas (s.answered a)
          dsimp only
          split
          · exact hloaded.whole
          · exact sendCommand_sound _ _ hloaded hsilent

theorem takeOpened_silent (report : OpenedReport) (o : OpenedDocument) (s : Session) :
    Silent (s.takeOpened report o).2 := by
  have hconfigured (height : Float) (d : Document) :
      d.Unattended (d.configurePage o.width height o.margins.right) :=
    d.configurePage_unattended o.width height o.margins.right
  exact (silent_onDocument (hconfigured _) s).cons rfl

/-- The chain that opens a chapter ends whole or fails, whatever session it starts in. -/
theorem openChain_sound (page : Int) (postLoad : Option String) (s : Session) :
    (openChain page postLoad s).Sound := by
  have hblank : ∀ d : Document, d.Unattended
      ((d.setEditable false).update fun d => { d with viewport := none }) := fun d =>
    (d.setEditable_unattended false).update fun _ => rfl
  have hsilent := silent_onDocument hblank (s.mapPaging (Paging.setLoading true))
  rw [openChain]
  split
  next => exact failed_sound _ _ silent_nil
  next chapter _ =>
    generalize (if page = 0 then 1 else page) = page
    dsimp only
    split
    -- either the report is open already, or the answer brings it along
    next hsame =>
      refine loadChapter_sound _ _ _ ?_ hsilent
      rw [hsame.1]
      rfl
    next =>
      intro a
      refine Sound.after ?_ (hsilent.append (silent_nil.cons rfl))
      dsimp only
      cases a.reply with
      | error cause => exact failed_sound _ _ silent_nil
      | ok reply =>
        dsimp only
        split
        · exact failed_sound _ _ silent_nil
        · cases reply with
          | errors messages => exact failed_sound _ _ silent_nil
          | ack o => exact loadChapter_sound _ _ _ rfl (takeOpened_silent _ _ _)

end Session

end BandCanvas
