import BandCanvas.Proofs.Document.Mounted
import BandCanvas.Proofs.Document.Operation

namespace BandCanvas

namespace Document

/-- The same document, but for settings of the grid that come to the same lines and an overlay that agrees. -/
inductive Agree (host : WidgetHost) (d : Document) : Document → Prop
  | mk {major minor : Float} {o : Overlay}
    (hgrid : { d with gridMajor := major, gridMinor := minor }.grid = d.grid)
    (hoverlay : d.overlay.Agree host o) :
    Agree host d { d with gridMajor := major, gridMinor := minor, overlay := o }

end Document

structure Outcome.Agree (host : WidgetHost) (o o' : Outcome) : Prop where
  document : o.document.Agree host o'.document
  effects : o'.effects = o.effects

namespace Outcome.Agree

variable {host : WidgetHost} {o o' : Outcome}

theorem andThen {f : Document → Outcome} (h : Outcome.Agree host o o')
    (hf : ∀ {d d' : Document}, d.Agree host d' → Outcome.Agree host (f d) (f d')) :
    Outcome.Agree host (o.andThen f) (o'.andThen f) where
  document := (hf h.document).document
  effects := by simp only [Outcome.andThen, h.effects, (hf h.document).effects]

theorem update {f : Document → Document} (h : Outcome.Agree host o o')
    (hf : ∀ {d d' : Document}, d.Agree host d' → (f d).Agree host (f d')) :
    Outcome.Agree host (o.update f) (o'.update f) where
  document := hf h.document
  effects := h.effects

end Outcome.Agree

namespace Document

variable {host : WidgetHost} {d d' : Document}

theorem Agree.quiet (h : d.Agree host d') : Outcome.Agree host d.quiet d'.quiet :=
  ⟨h, rfl⟩

theorem Agree.hideMenu (h : d.Agree host d') : Outcome.Agree host d.hideMenu d'.hideMenu := by
  obtain ⟨hgrid, hoverlay⟩ := h
  constructor
  · rw [hideMenu_document, hideMenu_document]
    exact .mk hgrid hoverlay
  · rw [hideMenu_effects, hideMenu_effects]

theorem Agree.updateMenu (h : d.Agree host d') (y : Float) :
    Outcome.Agree host (d.updateMenu y) (d'.updateMenu y) := by
  have heditable : d'.editable = d.editable := by cases h; rfl
  have htarget : d'.menuTarget? y = d.menuTarget? y := by cases h; rfl
  have hmenu : d'.menuBand = d.menuBand := by cases h; rfl
  have hplace : d'.menuPlace = d.menuPlace := by cases h; rfl
  rw [Document.updateMenu, Document.updateMenu, heditable, htarget]
  split
  · cases d.menuTarget? y with
    | none => exact h.hideMenu
    | some b =>
      dsimp only
      rw [hmenu, hplace]
      split
      · exact h.quiet
      · obtain ⟨hgrid, hoverlay⟩ := h
        exact ⟨.mk hgrid hoverlay, rfl⟩
  · exact h.hideMenu

theorem Agree.adjustScroll (h : d.Agree host d') :
    Outcome.Agree host (d.adjustScroll host) (d'.adjustScroll host) := by
  have hquiet := h.quiet
  have hscrolled : ∀ dx dy, Outcome.Agree host ⟨d, [.event (.scrollBy dx dy)]⟩
      ⟨d', [.event (.scrollBy dx dy)]⟩ :=
    fun dx dy => ⟨h, rfl⟩
  obtain ⟨hgrid, hoverlay⟩ := h
  rw [Document.adjustScroll, Document.adjustScroll, hoverlay.bounds?]
  dsimp only
  split
  · split
    · exact hscrolled _ _
    · exact hquiet
  · exact hquiet

theorem Agree.withOverlay (h : d.Agree host d') {step step' : OverlayStep}
    (hstep : Overlay.Agrees host step step') :
    Outcome.Agree host (d.withOverlay step) (d'.withOverlay step') := by
  obtain ⟨hgrid, -⟩ := h
  exact ⟨.mk hgrid hstep.1, congrArg Effect.widgets hstep.2⟩

theorem Agree.overlay (h : d.Agree host d') : d.overlay.Agree host d'.overlay := by
  obtain ⟨-, hoverlay⟩ := h
  exact hoverlay

theorem Agree.ratio (h : d.Agree host d') : d'.ratio = d.ratio := by
  cases h
  rfl

theorem Agree.clearPage (h : d.Agree host d') : d'.clearPage = d.clearPage := by
  obtain ⟨hgrid, -⟩ := h
  exact congrArg (fun grid => _ ++ grid ++ [.restore]) hgrid

theorem Agree.dropBands (h : d.Agree host d') : Outcome.Agree host d.dropBands d'.dropBands := by
  apply h.hideMenu.update
  rintro d d' ⟨hgrid, hoverlay⟩
  exact .mk hgrid hoverlay

theorem Agree.pend (h : d.Agree host d') (f : Option Fragment) :
    Agree host { d with pending := f } { d' with pending := f } := by
  obtain ⟨hgrid, hoverlay⟩ := h
  exact .mk hgrid hoverlay

theorem Agree.attachEditor (h : d.Agree host d') (json : String) :
    Outcome.Agree host (d.attachEditor host json) (d'.attachEditor host json) := by
  obtain ⟨herror, hstep⟩ := h.overlay.attach d.ratio json
  obtain ⟨hdocument, heffects⟩ := h.withOverlay hstep
  rw [Document.attachEditor, Document.attachEditor, h.ratio]
  exact ⟨hdocument, by dsimp only; rw [heffects, herror]⟩

theorem Agree.prepareEditor (h : d.Agree host d') (source : String) (position : Nat) (box : DeviceRect) :
    Outcome.Agree host (d.prepareEditor source position box) (d'.prepareEditor source position box) := by
  have hplaced := h.withOverlay (h.overlay.prepare d.ratio box)
  have hmenu := hplaced.andThen fun h => h.updateMenu (box.y + box.height / 2)
  rw [Document.prepareEditor, Document.prepareEditor, h.ratio]
  exact hmenu.update fun h => h.pend _

theorem Agree.edit (h : d.Agree host d') (e : EditorCommand) :
    Outcome.Agree host (d.edit host e) (d'.edit host e) := by
  have hratio := h.ratio
  cases e with
  | attach json => exact h.attachEditor json
  | configure mode => exact h.withOverlay (h.overlay.configure mode)
  | start field =>
    have hstarted := h.withOverlay (h.overlay.start d.ratio field)
    rw [Document.edit, Document.edit, hratio]
    exact hstarted.andThen fun h => h.adjustScroll
  | update content => exact h.withOverlay (h.overlay.update content)
  | finish => exact (h.withOverlay h.overlay.finish).update fun h => h.pend none
  | hint box text =>
    rw [Document.edit, Document.edit, hratio]
    exact h.withOverlay (h.overlay.hint _ text)
  | prepare | debugBox | other => exact h.quiet

theorem Agree.drawLive (h : d.Agree host d') (p : LivePass) (k : Command) :
    Outcome.Agree host (d.drawLive p k).1 (d'.drawLive p k).1 ∧
      (d'.drawLive p k).2 = (d.drawLive p k).2 := by
  obtain ⟨hgrid, hoverlay⟩ := h
  exact ⟨⟨.mk hgrid hoverlay, rfl⟩, rfl⟩

theorem Agree.repaint (h : d.Agree host d') : Outcome.Agree host d.repaint d'.repaint := by
  have hclear := h.clearPage
  obtain ⟨hgrid, hoverlay⟩ := h
  refine ⟨.mk hgrid hoverlay, ?_⟩
  exact congrArg (fun cs => Effect.calls (.save :: cs) ++ _ ++ [.call .restore]) hclear

theorem Agree.perform (h : d.Agree host d') (source : String) (position : Nat) (p : LivePass)
    (k : Command) :
    Outcome.Agree host (d.perform host source position p k).1 (d'.perform host source position p k).1 ∧
      (d'.perform host source position p k).2 = (d.perform host source position p k).2 := by
  have hrepaint := h.repaint
  have hquiet := h.quiet
  cases k with
  | reset hard =>
    cases hard with
    | true =>
      have hcleared : Outcome.Agree host ⟨d, Effect.calls d.clearPage⟩ ⟨d', Effect.calls d'.clearPage⟩ :=
        ⟨h, congrArg Effect.calls h.clearPage⟩
      exact ⟨hcleared.andThen fun h => h.dropBands, rfl⟩
    | false =>
      have hstyled : Outcome.Agree host ⟨d, Effect.calls PaintState.initial.styleCalls⟩
          ⟨d', Effect.calls PaintState.initial.styleCalls⟩ :=
        ⟨h, rfl⟩
      exact ⟨hstyled.andThen fun h => h.dropBands, rfl⟩
  | band b =>
    obtain ⟨hgrid, hoverlay⟩ := h
    exact ⟨⟨.mk hgrid hoverlay, rfl⟩, rfl⟩
  | update =>
    obtain ⟨hgrid, hoverlay⟩ := h
    refine ⟨?_, rfl⟩
    rw [Document.perform, Document.perform]
    dsimp only
    split
    · exact hquiet
    · exact hrepaint
  | grid major minor =>
    obtain ⟨-, hoverlay⟩ := h
    exact ⟨⟨.mk rfl hoverlay, rfl⟩, rfl⟩
  | page number count =>
    obtain ⟨hgrid, hoverlay⟩ := h
    exact ⟨⟨.mk hgrid hoverlay, rfl⟩, rfl⟩
  | editor e =>
    have hedit := h.edit e
    cases e with
    | prepare box => exact ⟨h.prepareEditor source position box, rfl⟩
    | debugBox r => exact h.drawLive p _
    | _ => exact ⟨hedit, rfl⟩
  | _ => exact h.drawLive p _

theorem Agree.runSteps (h : d.Agree host d') (source : String) (xs : List Step) (p : LivePass) :
    Outcome.Agree host (runSteps host source xs p d).1 (runSteps host source xs p d').1 := by
  have hrun := runSteps_related (R := Agree host) (f := id) (fun _ => rfl)
    (fun x p k d d' h => by
      obtain ⟨⟨hdocument, heffects⟩, hpass⟩ := h.perform source x.2.offset p k
      exact ⟨hdocument, heffects, hpass⟩) xs p h
  rw [List.map_id] at hrun
  exact ⟨hrun.1, hrun.2⟩

theorem Agree.live (h : d.Agree host d') (f : Fragment) :
    Outcome.Agree host (d.live host f) (d'.live host f) := by
  have hstyled : Outcome.Agree host ⟨d, Effect.calls PaintState.initial.styleCalls⟩
      ⟨d', Effect.calls PaintState.initial.styleCalls⟩ :=
    ⟨h, rfl⟩
  rw [live_eq_runSteps, live_eq_runSteps]
  exact hstyled.andThen fun h => h.runSteps f.source f.decoded LivePass.initial

theorem Agree.notify (h : d.Agree host d') (n : Notification) :
    Outcome.Agree host (d.notify n) (d'.notify n) := by
  obtain ⟨paging, effects, hnoted⟩ := exists_noted n d.paging
  have hpaging : d'.paging = d.paging := by cases h; rfl
  rw [hnoted d rfl, hnoted d' hpaging]
  obtain ⟨hgrid, hoverlay⟩ := h
  exact ⟨.mk hgrid hoverlay, rfl⟩

theorem Agree.handleMessage (h : d.Agree host d') (message : String) :
    Outcome.Agree host (d.handleMessage host message) (d'.handleMessage host message) := by
  rw [Document.handleMessage, Document.handleMessage]
  split
  · exact h.live _
  · cases Notification.parse? _ with
    | none => exact h.quiet
    | some n => exact h.notify n
  · exact h.quiet

theorem Agree.tick (h : d.Agree host d') (now : Nat) (loads : List ImageLoad) :
    Outcome.Agree host (d.tick now loads).2 (d'.tick now loads).2 := by
  obtain ⟨hgrid, hoverlay⟩ := h
  rw [Document.tick, Document.tick]
  dsimp only
  generalize completeLoads loads d.images = r
  generalize (if r.1 = true then d.timer.arm now else d.timer).due now = t
  split
  · exact Agree.repaint (.mk hgrid hoverlay)
  · exact Agree.quiet (.mk hgrid hoverlay)

theorem Agree.pointerMoved (h : d.Agree host d') (y : Float) :
    Outcome.Agree host (d.pointerMoved y) (d'.pointerMoved y) := by
  have hquiet := h.quiet
  have hmenu := h.updateMenu (d.scale.cssToDevice y)
  obtain ⟨hgrid, hoverlay⟩ := h
  rw [Document.pointerMoved, Document.pointerMoved]
  dsimp only
  rw [hoverlay.visible]
  split
  · exact hmenu
  · exact hquiet

theorem Agree.reset (h : d.Agree host d') : Outcome.Agree host d.reset d'.reset := by
  have hclear := h.clearPage
  have hhidden := h.hideMenu.effects
  obtain ⟨hunbound, htold⟩ := h.overlay.reset
  obtain ⟨hgrid, hoverlay⟩ := h
  rw [reset_eq, reset_eq]
  refine ⟨.mk hgrid hunbound, ?_⟩
  dsimp only at hclear hhidden htold ⊢
  rw [hhidden, hclear]
  exact congrArg (fun as => _ ++ Effect.widgets as ++ _) htold

variable {op : DocumentOperation}

theorem Agree.operation (h : d.Agree host d') (hop : op.resizes = false) :
    Outcome.Agree host (op.run host d) (op.run host d') := by
  have hediting : ∀ editable, Agree host { d with editable } { d' with editable } := by
    obtain ⟨hgrid, hoverlay⟩ := h
    exact fun editable => .mk hgrid hoverlay
  cases op with
  | message text => exact h.handleMessage text
  | paint commands => exact h.live ⟨commands, 0⟩
  | repaint => exact h.repaint
  | tick now loads => exact h.tick now loads
  | pointer y => exact h.pointerMoved y
  | editable b =>
    rw [DocumentOperation.run, DocumentOperation.run, setEditable, setEditable]
    split
    · exact (hediting b).quiet
    · exact (hediting b).hideMenu
  | reset => exact h.reset
  | zoom | page => cases hop
  | fontsLoaded | background | viewport | paging =>
    obtain ⟨hgrid, hoverlay⟩ := h
    exact ⟨.mk hgrid hoverlay, rfl⟩

theorem Agree.run (h : d.Agree host d') {ops : List DocumentOperation}
    (hops : ∀ op ∈ ops, op.resizes = false) :
    (d'.run host ops).effects = (d.run host ops).effects := by
  induction ops generalizing d d' with
  | nil => rfl
  | cons op ops ih =>
    obtain ⟨hop, htail⟩ := List.forall_mem_cons.1 hops
    obtain ⟨hdocument, heffects⟩ := h.operation hop
    rw [run_cons, run_cons, heffects, ih hdocument htail]

end Document

end BandCanvas
