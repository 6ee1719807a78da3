import BandCanvas.Document.Operation
import BandCanvas.Proofs.Document.Repaint

namespace BandCanvas

namespace Effect

def isLoadError : Effect → Bool
  | .event (.loadError _) => true
  | _ => false

theorem not_loadError_of_draws {e : Effect} (h : e.draws = true) : e.isLoadError = false := by
  cases e with
  | event => cases h
  | _ => rfl

def isPaging : Effect → Bool
  | .event (.pageCount _) | .event (.pageNumber _) | .event (.chapterPage ..) => true
  | _ => false

theorem not_loadError_of_isPaging {e : Effect} (h : e.isPaging = true) : e.isLoadError = false := by
  unfold isPaging at h
  split at h
  · rfl
  · rfl
  · rfl
  · cases h

theorem not_loadError_calls {cs : List CanvasCall} : ∀ e ∈ calls cs, e.isLoadError = false :=
  fun e he => not_loadError_of_draws (draws_of_mem_calls e he)

theorem not_loadError_widgets {as : List (String × WidgetAction)} :
    ∀ e ∈ widgets as, e.isLoadError = false := by
  intro e he
  obtain ⟨a, _, rfl⟩ := List.mem_map.1 he
  rfl

end Effect

namespace Paging

def Reports (p : Paging) (r : Option DocumentEvent × Paging) : Prop :=
  r.2.loading = p.loading ∧ ∀ e ∈ Effect.ofEvent? r.1, e.isPaging = true

variable (p : Paging)

theorem setChapterPage_reports (number count : Nat) : p.Reports (p.setChapterPage number count) := by
  rw [setChapterPage]
  split
  · exact ⟨rfl, List.forall_mem_nil _⟩
  · exact ⟨rfl, List.forall_mem_singleton.2 rfl⟩

theorem updatePageCount_reports (count : Nat) : p.Reports (p.updatePageCount count) := by
  rw [updatePageCount]
  split
  · refine ⟨rfl, ?_⟩
    dsimp only
    split
    · exact List.forall_mem_singleton.2 rfl
    · exact List.forall_mem_nil _
  · exact ⟨rfl, List.forall_mem_nil _⟩

theorem updatePageNumber_reports (number : Nat) : p.Reports (p.updatePageNumber number) := by
  rw [updatePageNumber]
  split
  · refine ⟨rfl, ?_⟩
    dsimp only
    split
    · exact List.forall_mem_nil _
    · exact List.forall_mem_singleton.2 rfl
  · exact ⟨rfl, List.forall_mem_nil _⟩

end Paging

namespace Document

/-- The document is loaded or not as it was, and nothing is said of a failure to do so. -/
structure Unattended (d : Document) (o : Outcome) : Prop where
  loading : o.document.paging.loading = d.paging.loading
  silent : ∀ e ∈ o.effects, e.isLoadError = false

namespace Unattended

variable {d : Document} {o : Outcome}

theorem quiet (d : Document) : d.Unattended d.quiet :=
  ⟨rfl, List.forall_mem_nil _⟩

theorem andThen {f : Document → Outcome} (h : d.Unattended o)
    (hf : ∀ d : Document, d.Unattended (f d)) : d.Unattended (o.andThen f) where
  loading := (hf o.document).loading.trans h.loading
  silent e he := (List.mem_append.1 he).elim (h.silent e) ((hf o.document).silent e)

theorem update {f : Document → Document} (h : d.Unattended o)
    (hf : ∀ d, (f d).paging.loading = d.paging.loading) : d.Unattended (o.update f) where
  loading := (hf o.document).trans h.loading
  silent := h.silent

end Unattended

variable (host : WidgetHost) (d : Document)

theorem hideMenu_unattended : d.Unattended d.hideMenu := by
  rw [hideMenu]
  split
  · exact ⟨rfl, List.forall_mem_singleton.2 rfl⟩
  · exact .quiet d

theorem hideMenu_document : d.hideMenu.document = { d with menuBand := none } := by
  rw [hideMenu]
  split
  next => rfl
  next h =>
    cases d
    obtain rfl := h
    rfl

theorem adjustScroll_document : (d.adjustScroll host).document = d := by
  rw [adjustScroll]
  split
  · dsimp only
    split <;> rfl
  · rfl

theorem updateMenu_unattended (y : Float) : d.Unattended (d.updateMenu y) := by
  rw [updateMenu]
  split
  · split
    · exact d.hideMenu_unattended
    · split
      · exact .quiet d
      · exact ⟨rfl, List.forall_mem_singleton.2 rfl⟩
  · exact d.hideMenu_unattended

theorem adjustScroll_unattended : d.Unattended (d.adjustScroll host) := by
  rw [adjustScroll]
  split
  · dsimp only
    split
    · exact ⟨rfl, List.forall_mem_singleton.2 rfl⟩
    · exact .quiet d
  · exact .quiet d

theorem withOverlay_unattended (step : OverlayStep) : d.Unattended (d.withOverlay step) :=
  ⟨rfl, Effect.not_loadError_widgets⟩

theorem repaint_unattended : d.Unattended d.repaint :=
  ⟨rfl, fun e he => Effect.not_loadError_of_draws (d.repaint_draws.draws d.images e he)⟩

theorem setEditable_unattended (editable : Bool) : d.Unattended (d.setEditable editable) := by
  rw [setEditable]
  split
  · exact ⟨rfl, List.forall_mem_nil _⟩
  · obtain ⟨hloading, hsilent⟩ := hideMenu_unattended { d with editable }
    exact ⟨hloading, hsilent⟩

theorem configurePage_unattended (width height rightMargin : Float) :
    d.Unattended (d.configurePage width height rightMargin) :=
  ⟨rfl, Effect.not_loadError_calls⟩

theorem setZoom_unattended (zoom : Float) : d.Unattended (d.setZoom zoom).2 :=
  ⟨rfl, Effect.not_loadError_calls⟩

theorem reset_unattended : d.Unattended d.reset := by
  have hunbound := d.hideMenu_unattended.andThen fun d =>
    d.withOverlay_unattended (Overlay.reset d.overlay)
  refine hunbound.andThen fun d => ⟨rfl, List.forall_mem_cons.2 ⟨rfl, ?_⟩⟩
  exact Effect.not_loadError_calls

theorem reported {r : Option DocumentEvent × Paging} (h : d.paging.Reports r) :
    d.Unattended ⟨{ d with paging := r.2 }, Effect.ofEvent? r.1⟩ :=
  ⟨h.1, fun e he => Effect.not_loadError_of_isPaging (h.2 e he)⟩

theorem defineBand_unattended (source : String) (position : Nat) (b : BandHeader) :
    d.Unattended (d.defineBand source position b) := by
  refine ⟨rfl, ?_⟩
  show ∀ e ∈ (if b.paint then _ else _), _
  split
  · exact List.forall_mem_singleton.2 rfl
  · exact List.forall_mem_nil _

theorem dropBands_unattended : d.Unattended d.dropBands :=
  d.hideMenu_unattended.update fun _ => rfl

theorem attachEditor_unattended (json : String) : d.Unattended (d.attachEditor host json) := by
  rw [attachEditor]
  obtain ⟨error, step⟩ := d.overlay.attach host d.ratio json
  refine ⟨rfl, fun e he => ?_⟩
  rcases List.mem_append.1 he with he | he
  · exact Effect.not_loadError_widgets e he
  · cases error with
    | none => cases he
    | some error =>
      rw [List.mem_singleton.1 he]
      rfl

theorem prepareEditor_unattended (source : String) (position : Nat) (box : DeviceRect) :
    d.Unattended (d.prepareEditor source position box) := by
  have hplaced := (d.withOverlay_unattended (d.overlay.prepare d.ratio box)).andThen
    fun d => updateMenu_unattended d (box.y + box.height / 2)
  exact hplaced.update fun _ => rfl

theorem edit_unattended (e : EditorCommand) : d.Unattended (d.edit host e) := by
  cases e with
  | attach json => exact d.attachEditor_unattended host json
  | start field =>
    exact (d.withOverlay_unattended _).andThen fun d => d.adjustScroll_unattended host
  | finish =>
    obtain ⟨hloading, hsilent⟩ := d.withOverlay_unattended d.overlay.finish
    exact ⟨hloading, hsilent⟩
  | prepare | debugBox | other => exact .quiet d
  | _ => exact d.withOverlay_unattended _

theorem drawLive_draws (p : LivePass) (k : Command) : ∀ e ∈ (d.drawLive p k).1.effects, e.draws = true := by
  intro e he
  rcases Paint.draw_cases ⟨d.ratio, p.painting⟩ p.paint k with ⟨i, hdraw⟩ | ⟨s', cs, hdraw⟩
  · have hmem : e ∈ (d.images.draw p.painting i).2 := by
      rw [drawLive, hdraw] at he
      exact he
    exact (ImageCache.draw_draws p.painting i).draws d.images e hmem
  · have hmem : e ∈ Effect.calls cs := by
      rw [drawLive, hdraw] at he
      exact he
    exact Effect.draws_of_mem_calls e hmem

theorem drawLive_unattended (p : LivePass) (k : Command) : d.Unattended (d.drawLive p k).1 :=
  ⟨rfl, fun e he => Effect.not_loadError_of_draws (d.drawLive_draws p k e he)⟩

theorem perform_unattended (source : String) (position : Nat) (p : LivePass) (k : Command) :
    d.Unattended (d.perform host source position p k).1 := by
  cases k with
  | reset hard =>
    cases hard with
    | true =>
      have hcleared : d.Unattended ⟨d, Effect.calls d.clearPage⟩ := ⟨rfl, Effect.not_loadError_calls⟩
      exact hcleared.andThen dropBands_unattended
    | false =>
      have hstyled : d.Unattended ⟨d, Effect.calls PaintState.initial.styleCalls⟩ :=
        ⟨rfl, Effect.not_loadError_calls⟩
      exact hstyled.andThen dropBands_unattended
  | band b => exact d.defineBand_unattended source position b
  | update =>
    show d.Unattended (if d.bands.isEmpty then d.quiet else d.repaint)
    split
    · exact .quiet d
    · exact d.repaint_unattended
  | grid major minor => exact ⟨rfl, List.forall_mem_nil _⟩
  | page number count => exact d.reported (d.paging.setChapterPage_reports number count)
  | editor e =>
    have hedit := d.edit_unattended host e
    cases e with
    | prepare box => exact d.prepareEditor_unattended source position box
    | debugBox r => exact d.drawLive_unattended p _
    | _ => exact hedit
  | _ => exact d.drawLive_unattended p _

theorem runSteps_unattended (source : String) (xs : List Step) (p : LivePass) :
    d.Unattended (runSteps host source xs p d).1 := by
  induction xs generalizing p d with
  | nil => exact .quiet d
  | cons x xs ih =>
    obtain ⟨r, c⟩ := x
    cases r with
    | error e => exact ih d p
    | ok k =>
      have hstep := d.perform_unattended host source c.offset p k
      rcases perform_cases host source c.offset p d k with ⟨-, o, ho⟩ | ⟨-, o, p', ho⟩
      · rw [ho] at hstep
        rw [runSteps_stop ho]
        exact hstep
      · rw [ho] at hstep
        rw [runSteps_go ho]
        exact hstep.andThen fun d => ih d p'

theorem live_unattended (f : Fragment) : d.Unattended (d.live host f) := by
  have hstyled : d.Unattended ⟨d, Effect.calls PaintState.initial.styleCalls⟩ :=
    ⟨rfl, Effect.not_loadError_calls⟩
  rw [live_eq_runSteps]
  exact hstyled.andThen fun d => d.runSteps_unattended host f.source f.decoded LivePass.initial

theorem updatePageCount_unattended (count : Nat) : d.Unattended (d.updatePageCount count) :=
  d.reported (d.paging.updatePageCount_reports count)

theorem updatePageNumber_unattended (number : Nat) : d.Unattended (d.updatePageNumber number) :=
  d.reported (d.paging.updatePageNumber_reports number)

theorem notify_unattended (n : Notification) : d.Unattended (d.notify n) := by
  rw [notify]
  split
  · exact .quiet d
  · cases n.pageCount.filter (0 < ·) with
    | none =>
      cases n.pageNumber.filter (0 < ·) with
      | none => exact .quiet d
      | some number => exact (Unattended.quiet d).andThen fun d => d.updatePageNumber_unattended number
    | some count =>
      have hcounted := d.updatePageCount_unattended count
      cases n.pageNumber.filter (0 < ·) with
      | none => exact hcounted
      | some number => exact hcounted.andThen fun d => d.updatePageNumber_unattended number

theorem handleMessage_unattended (message : String) :
    d.Unattended (d.handleMessage host message) := by
  rw [handleMessage]
  split
  · exact d.live_unattended host _
  · cases Notification.parse? _ with
    | none => exact .quiet d
    | some n => exact d.notify_unattended n
  · exact .quiet d

end Document

end BandCanvas
