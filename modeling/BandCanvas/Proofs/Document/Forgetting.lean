import BandCanvas.Proofs.Document.Agreement
import BandCanvas.Proofs.Document.PictureHistory

namespace BandCanvas

def DocumentOperation.configures : DocumentOperation → Bool
  | .zoom _ | .page .. | .editable _ | .background _ | .viewport _ | .paging _ => true
  | _ => false

namespace Document

attribute [ext] Scale RedrawTimer Document

variable {host : WidgetHost} {options : DocumentOptions} {d d' : Document} {op : DocumentOperation}

/-- What a document keeps of the options it was created with. -/
structure Built (host : WidgetHost) (options : DocumentOptions) (d : Document) : Prop where
  overlay : d.overlay.Sound host
  defaultTag : d.overlay.defaultTag = options.defaultTag
  ratio : d.scale.ratio = options.density.ratio
  delay : d.timer.delay = options.redrawDelay

namespace Built

theorem create (host : WidgetHost) (options : DocumentOptions) :
    Built host options (create options).document :=
  ⟨.initial host options.defaultTag, rfl, rfl, rfl⟩

theorem hideMenu (h : Built host options d) : Built host options d.hideMenu.document := by
  rw [hideMenu_document]
  exact ⟨h.overlay, h.defaultTag, h.ratio, h.delay⟩

theorem response {o : Outcome} (hresponse : Response host d o) (h : Built host options d) :
    Built host options o.document := by
  induction hresponse with
  | andThen _ _ ih ih' => exact ih' (ih h)
  | overlay hstep =>
    exact ⟨hstep.sound host h.overlay, (hstep.defaultTag host).trans h.defaultTag, h.ratio, h.delay⟩
  | _ => exact ⟨h.overlay, h.defaultTag, h.ratio, h.delay⟩

theorem operation (op : DocumentOperation) (h : Built host options d) :
    Built host options (op.run host d).document := by
  cases op with
  | message text => exact h.response (d.handleMessage_response host text)
  | paint commands => exact h.response (d.live_response host _)
  | pointer y => exact h.response (d.pointerMoved_response host y)
  | tick now loads =>
    rw [DocumentOperation.run]
    obtain ⟨timer, hdelay, htick | htick⟩ := d.tick_cases now loads
    · rw [htick]
      exact ⟨h.overlay, h.defaultTag, h.ratio, hdelay.trans h.delay⟩
    · rw [htick]
      exact ⟨h.overlay, h.defaultTag, h.ratio, hdelay.trans h.delay⟩
  | editable b =>
    have hset : Built host options { d with editable := b } := ⟨h.overlay, h.defaultTag, h.ratio, h.delay⟩
    rw [DocumentOperation.run, setEditable]
    split
    · exact hset
    · exact hset.hideMenu
  | reset =>
    rw [DocumentOperation.run, reset_eq]
    exact ⟨h.overlay.unbound, h.defaultTag, h.ratio, h.delay⟩
  | repaint | fontsLoaded | zoom | page | background | viewport | paging =>
    exact ⟨h.overlay, h.defaultTag, h.ratio, h.delay⟩

theorem run (ops : List DocumentOperation) (h : Built host options d) :
    Built host options (d.run host ops).document := by
  induction ops generalizing d with
  | nil => exact h
  | cons op ops ih => exact ih (h.operation op)

end Built

/-- Nothing is stored, waited for or edited. -/
structure Blank (d : Document) : Prop where
  bands : d.bands = BandStore.empty
  images : d.images = ImageCache.empty
  pending : d.pending = none
  menuBand : d.menuBand = none
  deadline : d.timer.deadline = none
  active : d.overlay.active = none
  binding : d.overlay.binding = EditorBinding.empty
  visible : d.overlay.visible = false

namespace Blank

theorem reset (d : Document) : Blank d.reset.document := by
  rw [reset_eq]
  exact ⟨rfl, rfl, rfl, rfl, rfl, rfl, rfl, rfl⟩

theorem hideMenu (h : Blank d) : Blank d.hideMenu.document := by
  rw [hideMenu_document]
  exact ⟨h.bands, h.images, h.pending, rfl, h.deadline, h.active, h.binding, h.visible⟩

theorem operation (h : Blank d) (hop : op.configures = true) : Blank (op.run host d).document := by
  cases op with
  | editable b =>
    have hset : Blank { d with editable := b } :=
      ⟨h.bands, h.images, h.pending, h.menuBand, h.deadline, h.active, h.binding, h.visible⟩
    rw [DocumentOperation.run, setEditable]
    split
    · exact hset
    · exact hset.hideMenu
  | zoom | page | background | viewport | paging =>
    exact ⟨h.bands, h.images, h.pending, h.menuBand, h.deadline, h.active, h.binding, h.visible⟩
  | _ => cases hop

theorem run {ops : List DocumentOperation} (h : Blank d) (hops : ∀ op ∈ ops, op.configures = true) :
    Blank (d.run host ops).document := by
  induction ops generalizing d with
  | nil => exact h
  | cons op ops ih =>
    obtain ⟨hop, htail⟩ := List.forall_mem_cons.1 hops
    exact ih (h.operation hop) htail

end Blank

/-- A document that has been reset after any history, and was set up again. -/
def Cleared (host : WidgetHost) (options : DocumentOptions) (d : Document) : Prop :=
  ∃ past setup, (∀ op ∈ setup, op.configures = true) ∧
    d = ((create options).document.run host (past ++ .reset :: setup)).document

/-- The same page, set up in the same way. -/
structure SameSettings (d d' : Document) : Prop where
  pageWidth : d'.scale.pageWidth = d.scale.pageWidth
  pageHeight : d'.scale.pageHeight = d.scale.pageHeight
  zoom : d'.scale.zoom = d.scale.zoom
  rightMargin : d'.rightMargin = d.rightMargin
  background : d'.background = d.background
  editable : d'.editable = d.editable
  viewport : d'.viewport = d.viewport
  paging : d'.paging = d.paging

theorem Cleared.built (h : Cleared host options d) : Built host options d := by
  obtain ⟨past, setup, -, rfl⟩ := h
  exact (Built.create host options).run _

theorem Cleared.blank (h : Cleared host options d) : Blank d := by
  obtain ⟨past, setup, hsetup, rfl⟩ := h
  rw [run_append]
  exact (Blank.reset _).run hsetup

theorem Cleared.scale (h : Cleared host options d) (h' : Cleared host options d')
    (hsame : d.SameSettings d') : d'.scale = d.scale :=
  Scale.ext (h'.built.ratio.trans h.built.ratio.symm) hsame.pageWidth hsame.pageHeight hsame.zoom

theorem Cleared.agree (h : Cleared host options d) (h' : Cleared host options d')
    (hsame : d.SameSettings d')
    (hplaces : ∀ tag, d'.overlay.whereabouts host tag = d.overlay.whereabouts host tag)
    (hgrid : d'.grid = d.grid) : d.Agree host d' := by
  have hbuilt := h.built
  have hbuilt' := h'.built
  have hblank := h.blank
  have hblank' := h'.blank
  have hoverlay : d.overlay.Agree host d'.overlay :=
    ⟨hbuilt.overlay, hbuilt'.overlay, hbuilt'.defaultTag.trans hbuilt.defaultTag.symm,
      hblank'.active.trans hblank.active.symm, hblank'.binding.trans hblank.binding.symm,
      hblank'.visible.trans hblank.visible.symm, hplaces⟩
  have htimer : d'.timer = d.timer :=
    RedrawTimer.ext (hbuilt'.delay.trans hbuilt.delay.symm) (hblank'.deadline.trans hblank.deadline.symm)
  have heq : d' =
      { d with gridMajor := d'.gridMajor, gridMinor := d'.gridMinor, overlay := d'.overlay } := by
    apply Document.ext
    case scale => exact h.scale h' hsame
    case background => exact hsame.background
    case bands => exact hblank'.bands.trans hblank.bands.symm
    case images => exact hblank'.images.trans hblank.images.symm
    case timer => exact htimer
    case pending => exact hblank'.pending.trans hblank.pending.symm
    case paging => exact hsame.paging
    case editable => exact hsame.editable
    case rightMargin => exact hsame.rightMargin
    case menuBand => exact hblank'.menuBand.trans hblank.menuBand.symm
    case viewport => exact hsame.viewport
    all_goals rfl
  rw [heq] at hgrid ⊢
  exact .mk hgrid hoverlay

theorem Blank.repaint (h : Blank d) :
    d.repaint.effects = Effect.calls (.save :: d.clearPage) ++ [.call .restore] := by
  have hnone : d.fragments = [] := by
    rw [fragments, h.bands, h.pending]
    rfl
  rw [Document.repaint, hnone]
  exact congrArg (· ++ [Effect.call .restore]) (List.append_nil _)

theorem grid_of_clearPage (hscale : d'.scale = d.scale) (hbackground : d'.background = d.background)
    (h : d'.clearPage = d.clearPage) : d'.grid = d.grid := by
  rw [clearPage, clearPage, canvasWidth, canvasWidth, canvasHeight, canvasHeight, hscale,
    hbackground] at h
  exact List.append_cancel_left (List.append_cancel_right h)

/-- Whether two documents say the same, whatever is done with them on a canvas of one size. -/
def SaySame (host : WidgetHost) (d d' : Document) : Prop :=
  ∀ ops : List DocumentOperation, (∀ op ∈ ops, op.resizes = false) →
    (d'.run host ops).effects = (d.run host ops).effects

theorem Cleared.grid (h : Cleared host options d) (h' : Cleared host options d')
    (hsame : d.SameSettings d') (hrepaint : d'.repaint.effects = d.repaint.effects) :
    d'.grid = d.grid := by
  rw [h'.blank.repaint, h.blank.repaint] at hrepaint
  have hcalls : Effect.made (Effect.calls (.save :: d'.clearPage)) =
      Effect.made (Effect.calls (.save :: d.clearPage)) :=
    congrArg Effect.made (List.append_cancel_right hrepaint)
  rw [Effect.made_calls, Effect.made_calls] at hcalls
  exact grid_of_clearPage (h.scale h' hsame) hsame.background (List.cons.inj hcalls).2

/-- Two documents say the same after a reset exactly if the grids that their histories left come to the same
lines. -/
theorem saySame_iff_grid (h : Cleared host options d) (h' : Cleared host options d')
    (hsame : d.SameSettings d')
    (hplaces : ∀ tag, d'.overlay.whereabouts host tag = d.overlay.whereabouts host tag) :
    SaySame host d d' ↔ d'.grid = d.grid := by
  constructor
  · intro hsay
    have hrepaint := hsay [.repaint] (List.forall_mem_singleton.2 rfl)
    rw [run_singleton, run_singleton] at hrepaint
    exact h.grid h' hsame hrepaint
  · intro hgrid ops hops
    exact (h.agree h' hsame hplaces hgrid).run hops

theorem saySame_iff_grid_logo :
    let host : WidgetHost := ⟨fun _ => none, fun _ _ => .ok (), fun _ box => box⟩
    let d := ((create DocumentOptions.standard).document.run host [.reset, .editable true]).document
    let d' := ((create DocumentOptions.standard).document.run host
      [.paint logo.source, .reset, .editable true]).document
    SaySame host d d' := by
  intro host d d'
  have hsetup : ∀ op ∈ [DocumentOperation.editable true], op.configures = true :=
    List.forall_mem_singleton.2 rfl
  have hcleared : Cleared host DocumentOptions.standard d := ⟨[], _, hsetup, rfl⟩
  have hcleared' : Cleared host DocumentOptions.standard d' := ⟨[.paint logo.source], _, hsetup, rfl⟩
  have hpaint := paint_logo host (d := (create DocumentOptions.standard).document) rfl
  have heq : d' = (((create DocumentOptions.standard).document.paint host logo.source).document.run host
      [.reset, .editable true]).document :=
    rfl
  rw [hpaint] at heq
  have hsame : d.SameSettings d' := by
    rw [heq]
    exact ⟨rfl, rfl, rfl, rfl, rfl, rfl, rfl, rfl⟩
  have hplaces : ∀ tag, d'.overlay.whereabouts host tag = d.overlay.whereabouts host tag := by
    intro tag
    rw [heq]
    rfl
  apply (saySame_iff_grid hcleared hcleared' hsame hplaces).2
  rw [heq]
  rfl

def fineGrid : Fragment :=
  ⟨"kg100,50;", 0⟩

theorem paint_fineGrid (host : WidgetHost) (d : Document) :
    (d.paint host fineGrid.source).document = { d with gridMajor := 100, gridMinor := 50 } := by
  have hdecoded : fineGrid.decoded = [(.ok (.grid 100 50), ⟨9, some ';', []⟩)] :=
    Fragment.decoded_eq (.next rfl (.done rfl)) rfl
  have hlive : d.paint host fineGrid.source = d.live host fineGrid := rfl
  rw [hlive, live_eq_runSteps, hdecoded]
  rfl

/-- The grid of the open document is still there after a reset. -/
theorem not_saySame_fineGrid :
    let host : WidgetHost := ⟨fun _ => none, fun _ _ => .ok (), fun _ box => box⟩
    let d := ((create DocumentOptions.standard).document.run host [.reset]).document
    let d' := ((create DocumentOptions.standard).document.run host
      [.paint fineGrid.source, .reset]).document
    Cleared host DocumentOptions.standard d ∧ Cleared host DocumentOptions.standard d' ∧
      d.SameSettings d' ∧
      (∀ tag, d'.overlay.whereabouts host tag = d.overlay.whereabouts host tag) ∧
      ¬ SaySame host d d' := by
  intro host d d'
  have hcleared : Cleared host DocumentOptions.standard d := ⟨[], [], List.forall_mem_nil _, rfl⟩
  have hcleared' : Cleared host DocumentOptions.standard d' :=
    ⟨[.paint fineGrid.source], [], List.forall_mem_nil _, rfl⟩
  have heq : d' = (((create DocumentOptions.standard).document.paint host
      fineGrid.source).document.run host [.reset]).document :=
    rfl
  rw [paint_fineGrid] at heq
  have hsame : d.SameSettings d' := by
    rw [heq]
    exact ⟨rfl, rfl, rfl, rfl, rfl, rfl, rfl, rfl⟩
  refine ⟨hcleared, hcleared', hsame, fun tag => by rw [heq]; rfl, ?_⟩
  intro hsay
  have hrepaint := hsay [.repaint] (List.forall_mem_singleton.2 rfl)
  rw [run_singleton, run_singleton] at hrepaint
  have hgrid := hcleared.grid hcleared' hsame hrepaint
  have hmajor : d.gridMajor = 0 := rfl
  have hunset : (d.gridMajor != 0 && d.gridMinor ≥ 1) = false := by
    rw [hmajor]
    rfl
  have hmajor' : d'.gridMajor = 100 := by rw [heq]; rfl
  have hminor' : d'.gridMinor = 50 := by rw [heq]; rfl
  have hset : (d'.gridMajor != 0 && d'.gridMinor ≥ 1) = true := by
    rw [hmajor', hminor']
    rfl
  rw [grid, grid, hunset, hset] at hgrid
  cases hgrid

end Document

end BandCanvas
