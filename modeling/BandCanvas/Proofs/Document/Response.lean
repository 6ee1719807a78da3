import BandCanvas.Document.Operation
import BandCanvas.Proofs.Document.Pass

namespace BandCanvas

inductive Overlay.Step (host : WidgetHost) (ratio : Float) (o : Overlay) : OverlayStep → Prop
  | attach (json : String) : Overlay.Step host ratio o (o.attach host ratio json).2
  | configure (mode : EditMode) : Overlay.Step host ratio o (o.configure mode)
  | prepare (box : DeviceRect) : Overlay.Step host ratio o (o.prepare ratio box)
  | start (field : EditorStart) : Overlay.Step host ratio o (o.start ratio field)
  | update (content : EditorUpdate) : Overlay.Step host ratio o (o.update content)
  | finish : Overlay.Step host ratio o o.finish
  | hint (box : CssRect) (text : String) : Overlay.Step host ratio o (o.hint host box text)

namespace Document

/-- Something that a document does by itself: a part, or one thing after another. -/
inductive Response (host : WidgetHost) : Document → Outcome → Prop
  | quiet (d : Document) : Response host d d.quiet
  | andThen {d : Document} {o o' : Outcome} : Response host d o → Response host o.document o' →
    Response host d ⟨o'.document, o.effects ++ o'.effects⟩
  | clear (d : Document) : Response host d ⟨d, Effect.calls d.clearPage⟩
  | restyle (d : Document) : Response host d ⟨d, Effect.calls PaintState.initial.styleCalls⟩
  | draw (d : Document) (p : LivePass) (k : Command) : Response host d (d.drawLive p k).1
  | repaint (d : Document) : Response host d d.repaint
  | define (d : Document) (source : String) (position : Nat) (b : BandHeader) :
    Response host d (d.defineBand source position b)
  | drop {d : Document} (h : d.menuBand = none) :
    Response host d { d with bands := BandStore.empty, pending := none }.quiet
  | pend (d : Document) (f : Option Fragment) : Response host d { d with pending := f }.quiet
  | measure (d : Document) (major minor : Float) :
    Response host d { d with gridMajor := major, gridMinor := minor }.quiet
  | hide {d : Document} {id : Int} (h : d.menuBand = some id) :
    Response host d ⟨{ d with menuBand := none }, [.event .menuHidden]⟩
  | show {d : Document} {y : Float} {b : Band} (he : d.editable = true) (hb : d.menuTarget? y = some b)
    (hne : d.menuBand ≠ some b.id) :
    Response host d ⟨{ d with menuBand := some b.id },
      [.event (.menuShown b.id (d.menuPlace b).1 (d.menuPlace b).2)]⟩
  | overlay {d : Document} {step : OverlayStep} (h : d.overlay.Step host d.ratio step) :
    Response host d (d.withOverlay step)
  | complain (d : Document) (e : Option BindingError) :
    Response host d ⟨d, Effect.ofEvent? (e.map fun e => .bindingError e.message)⟩
  | scroll (d : Document) (dx dy : Float) : Response host d ⟨d, [.event (.scrollBy dx dy)]⟩
  | page (d : Document) (number count : Nat) :
    Response host d ⟨{ d with paging := (d.paging.setChapterPage number count).2 },
      Effect.ofEvent? (d.paging.setChapterPage number count).1⟩
  | pageCount (d : Document) (count : Nat) : Response host d (d.updatePageCount count)
  | pageNumber (d : Document) (number : Nat) : Response host d (d.updatePageNumber number)

namespace Response

variable {host : WidgetHost} {d : Document} {o : Outcome}

theorem bind {f : Document → Outcome} (h : Response host d o)
    (hf : ∀ d : Document, Response host d (f d)) : Response host d (o.andThen f) :=
  .andThen h (hf o.document)

theorem update {f : Document → Document} (h : Response host d o)
    (hf : Response host o.document (f o.document).quiet) : Response host d (o.update f) := by
  have hboth := h.andThen hf
  simp only [Document.quiet, List.append_nil] at hboth
  exact hboth

end Response

variable (host : WidgetHost) (d : Document)

theorem hideMenu_response : Response host d d.hideMenu := by
  cases hmenu : d.menuBand with
  | none =>
    rw [hideMenu, hmenu]
    exact .quiet d
  | some id =>
    rw [hideMenu, hmenu]
    exact .hide hmenu

theorem updateMenu_response (y : Float) : Response host d (d.updateMenu y) := by
  rw [updateMenu]
  split
  next heditable =>
    split
    next => exact d.hideMenu_response host
    next b htarget =>
      split
      next => exact .quiet d
      next hne => exact .show heditable htarget hne
  next => exact d.hideMenu_response host

theorem adjustScroll_response : Response host d (d.adjustScroll host) := by
  rw [adjustScroll]
  split
  next =>
    dsimp only
    split
    · exact .scroll d _ _
    · exact .quiet d
  next => exact .quiet d

theorem dropBands_response : Response host d d.dropBands := by
  have hgone : d.hideMenu.document.menuBand = none := by
    rw [hideMenu]
    split
    next => rfl
    next hnone => exact hnone
  exact (d.hideMenu_response host).update (.drop hgone)

theorem attachEditor_response (json : String) : Response host d (d.attachEditor host json) :=
  .andThen (.overlay (.attach json)) (.complain _ _)

theorem prepareEditor_response (source : String) (position : Nat) (box : DeviceRect) :
    Response host d (d.prepareEditor source position box) := by
  have hplaced : Response host d (d.withOverlay (d.overlay.prepare d.ratio box)) :=
    .overlay (.prepare box)
  have hmenu := hplaced.bind fun d => d.updateMenu_response host (box.y + box.height / 2)
  exact hmenu.update (.pend _ _)

theorem edit_response (e : EditorCommand) : Response host d (d.edit host e) := by
  cases e with
  | attach json => exact d.attachEditor_response host json
  | configure mode => exact .overlay (.configure mode)
  | start field =>
    have hstarted : Response host d (d.withOverlay (d.overlay.start d.ratio field)) :=
      .overlay (.start field)
    exact hstarted.bind fun d => d.adjustScroll_response host
  | update content => exact .overlay (.update content)
  | finish =>
    rw [edit]
    have hfinished : Response host d (d.withOverlay d.overlay.finish) := .overlay .finish
    apply hfinished.update
    exact .pend _ none
  | hint box text => exact .overlay (.hint _ text)
  | prepare | debugBox | other => exact .quiet d

theorem perform_response (source : String) (position : Nat) (p : LivePass) (k : Command) :
    Response host d (d.perform host source position p k).1 := by
  cases k with
  | reset hard =>
    cases hard with
    | true => exact (Response.clear d).bind fun d => d.dropBands_response host
    | false => exact (Response.restyle d).bind fun d => d.dropBands_response host
  | band b => exact .define d source position b
  | update =>
    rw [perform]
    dsimp only
    split
    · exact .quiet d
    · exact .repaint d
  | grid major minor => exact .measure d major minor
  | page number count => exact .page d number count
  | editor e =>
    have hedit := d.edit_response host e
    cases e with
    | prepare box => exact d.prepareEditor_response host source position box
    | debugBox r => exact .draw d p _
    | _ => exact hedit
  | _ => exact .draw d p _

theorem runSteps_response (source : String) (xs : List Step) (p : LivePass) :
    Response host d (runSteps host source xs p d).1 := by
  induction xs generalizing p d with
  | nil => exact .quiet d
  | cons x xs ih =>
    obtain ⟨r, c⟩ := x
    cases r with
    | error e => exact ih d p
    | ok k =>
      have hstep := d.perform_response host source c.offset p k
      rcases perform_cases host source c.offset p d k with ⟨-, o, ho⟩ | ⟨-, o, p', ho⟩
      · rw [ho] at hstep
        rw [runSteps_stop ho]
        exact hstep
      · rw [ho] at hstep
        rw [runSteps_go ho]
        exact .andThen hstep (ih o.document p')

theorem live_response (f : Fragment) : Response host d (d.live host f) := by
  rw [live_eq_runSteps]
  exact (Response.restyle d).bind fun d => d.runSteps_response host f.source f.decoded LivePass.initial

theorem notify_response (n : Notification) : Response host d (d.notify n) := by
  rw [notify]
  split
  · exact .quiet d
  · cases n.pageCount.filter (0 < ·) with
    | none =>
      cases n.pageNumber.filter (0 < ·) with
      | none => exact .quiet d
      | some number => exact .andThen (.quiet d) (.pageNumber d number)
    | some count =>
      cases n.pageNumber.filter (0 < ·) with
      | none => exact .pageCount d count
      | some number => exact .andThen (.pageCount d count) (.pageNumber _ number)

theorem handleMessage_response (message : String) :
    Response host d (d.handleMessage host message) := by
  rw [handleMessage]
  split
  · exact d.live_response host _
  · cases Notification.parse? _ with
    | none => exact .quiet d
    | some n => exact d.notify_response host n
  · exact .quiet d

theorem pointerMoved_response (y : Float) : Response host d (d.pointerMoved y) := by
  rw [pointerMoved]
  split
  · exact d.updateMenu_response host _
  · exact .quiet d

end Document

end BandCanvas
