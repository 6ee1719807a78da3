import BandCanvas.Proofs.Canvas.Bracketed
import BandCanvas.Proofs.Document.BandStyle
import BandCanvas.Proofs.Document.Operation
import BandCanvas.Proofs.Document.Repaint
import BandCanvas.Proofs.Document.Response

namespace BandCanvas

namespace CanvasCall

def isPicture : CanvasCall → Bool
  | .drawImage .. => true
  | _ => false

def isPlain (c : CanvasCall) : Bool :=
  !c.stacks && !c.isPicture

variable {c : CanvasCall}

theorem isPlain_of_draws (h : c.draws) : c.isPlain = true := by
  cases c <;> first | rfl | cases h

theorem stacks_of_isPlain (h : c.isPlain = true) : c.stacks = false := by
  cases c <;> first | rfl | cases h

theorem isPicture_of_isPlain (h : c.isPlain = true) : c.isPicture = false := by
  cases c <;> first | rfl | cases h

end CanvasCall

namespace Effect

/-- Neither the canvas nor the pictures have to do with it. -/
def isUnseen : Effect → Bool
  | .event _ | .widget .. => true
  | _ => false

variable {es : List Effect}

theorem made_unseen (h : ∀ e ∈ es, e.isUnseen = true) : made es = [] := by
  apply List.filterMap_eq_nil_iff.2
  intro e he
  have hunseen := h e he
  cases e <;> first | rfl | cases hunseen

theorem asked_unseen (h : ∀ e ∈ es, e.isUnseen = true) : asked es = [] := by
  apply List.filterMap_eq_nil_iff.2
  intro e he
  have hunseen := h e he
  cases e <;> first | rfl | cases hunseen

theorem isUnseen_widgets (as : List (String × WidgetAction)) :
    ∀ e ∈ widgets as, e.isUnseen = true := by
  intro e he
  obtain ⟨a, _, rfl⟩ := List.mem_map.1 he
  rfl

theorem isUnseen_ofEvent? (event : Option DocumentEvent) :
    ∀ e ∈ ofEvent? event, e.isUnseen = true := by
  intro e he
  cases event with
  | none => cases he
  | some event =>
    rw [List.mem_singleton.1 he]
    rfl

end Effect

/-- What painting with the pictures of a cache makes of them, and of the canvas. -/
structure Rendered (c : ImageCache) (r : ImageCache × List Effect) : Prop where
  asked : c.Asked r.1 (Effect.asked r.2)
  named : "" ∉ Effect.asked r.2
  bracketed : Bracketed (Effect.made r.2)
  arrived : ∀ b source target, .drawImage b source target ∈ Effect.made r.2 →
    ∃ path, c.ready? path = some b
  wanted : Effect.dropLoads ∉ r.2

namespace Rendered

variable {c c' c'' : ImageCache} {es es' : List Effect} {cs : List CanvasCall}

theorem unseen (c : ImageCache) (h : ∀ e ∈ es, e.isUnseen = true) : Rendered c (c, es) := by
  have hasked := Effect.asked_unseen h
  have hmade := Effect.made_unseen h
  constructor
  · rw [hasked]
    exact .refl c
  · rw [hasked]
    exact List.not_mem_nil
  · rw [hmade]
    exact .nil
  · intro b source target hmem
    rw [hmade] at hmem
    cases hmem
  · intro hdrop
    have hunseen := h _ hdrop
    cases hunseen

theorem calls (c : ImageCache) (hcs : Bracketed cs) (hplain : ∀ k ∈ cs, k.isPicture = false) :
    Rendered c (c, Effect.calls cs) := by
  constructor
  · rw [Effect.asked_calls]
    exact .refl c
  · rw [Effect.asked_calls]
    exact List.not_mem_nil
  · rw [Effect.made_calls]
    exact hcs
  · intro b source target hmem
    rw [Effect.made_calls] at hmem
    have hpicture := hplain _ hmem
    cases hpicture
  · intro hdrop
    have hdraws := Effect.draws_of_mem_calls _ hdrop
    cases hdraws

theorem plain (c : ImageCache) (h : ∀ k ∈ cs, k.isPlain = true) : Rendered c (c, Effect.calls cs) := by
  apply calls c
  · exact .of_forall fun k hk => CanvasCall.stacks_of_isPlain (h k hk)
  · exact fun k hk => CanvasCall.isPicture_of_isPlain (h k hk)

theorem append (h : Rendered c (c', es)) (h' : Rendered c' (c'', es')) :
    Rendered c (c'', es ++ es') := by
  constructor
  · rw [Effect.asked_append]
    exact h.asked.trans h'.asked
  · rw [Effect.asked_append]
    intro hmem
    exact (List.mem_append.1 hmem).elim h.named h'.named
  · rw [Effect.made_append]
    exact h.bracketed.append h'.bracketed
  · intro b source target hmem
    rw [Effect.made_append] at hmem
    rcases List.mem_append.1 hmem with hmem | hmem
    · exact h.arrived b source target hmem
    · obtain ⟨path, hready⟩ := h'.arrived b source target hmem
      exact ⟨path, (h.asked.toExtends.ready path).symm.trans hready⟩
  · intro hdrop
    exact (List.mem_append.1 hdrop).elim h.wanted h'.wanted

end Rendered

namespace ImageCache

theorem draw_rendered (painting : Bool) (i : ImageCommand) (c : ImageCache) :
    Rendered c (c.draw painting i) := by
  cases hpath : i.path.isEmpty with
  | true =>
    rw [draw_unnamed hpath]
    exact .unseen c (List.forall_mem_nil _)
  | false =>
    have hname : i.path ≠ "" := by
      intro hname
      rw [hname] at hpath
      cases hpath
    rcases draw_cases hpath painting c with ⟨_, c', hasked, hdraw⟩ | ⟨_, hdraw⟩
    · rw [hdraw]
      constructor
      · exact hasked
      · intro hmem
        exact hname (List.mem_singleton.1 hmem).symm
      · exact .nil
      · intro b source target hmem
        cases hmem
      · intro hdrop
        cases List.mem_singleton.1 hdrop
    · rw [hdraw]
      cases hready : c.ready? i.path with
      | none => exact .plain c (List.forall_mem_nil _)
      | some b =>
        cases painting with
        | false => exact .plain c (List.forall_mem_nil _)
        | true =>
          constructor
          · exact .refl c
          · exact List.not_mem_nil
          · exact .call rfl .nil
          · intro b' source target hmem
            cases List.mem_singleton.1 hmem
            exact ⟨i.path, hready⟩
          · intro hdrop
            cases List.mem_singleton.1 hdrop

end ImageCache

namespace Paint

variable {env : PaintEnv} {s : PaintState} {cs : List CanvasCall}

theorem isPlain_whenPainting (env : PaintEnv) (h : ∀ c ∈ cs, c.draws) :
    ∀ c ∈ whenPainting env cs, c.isPlain = true :=
  fun c hc => CanvasCall.isPlain_of_draws (whenPainting_draws env h c hc)

theorem isPlain_fillFirst (mode : PaintMode) (s : PaintState) :
    ∀ c ∈ fillFirst mode s, c.isPlain = true := by
  cases mode <;> simp [fillFirst, PaintMode.fills, CanvasCall.isPlain, CanvasCall.stacks,
    CanvasCall.isPicture]

theorem execute_isPlain {s' : PaintState} {k : Command} (h : execute env s k = some (s', cs)) :
    ∀ c ∈ cs, c.isPlain = true := by
  cases k with
  | line x1 y1 x2 y2 =>
    cases h
    exact isPlain_whenPainting env (line_draws x1 y1 x2 y2)
  | rect action r =>
    cases action with
    | clear =>
      cases h
      exact isPlain_whenPainting env (rectangle_draws .clear r)
    | paint mode =>
      cases h
      exact List.forall_mem_append.2
        ⟨isPlain_fillFirst mode s, isPlain_whenPainting env (rectangle_draws (.paint mode) r)⟩
  | roundRect mode radius r =>
    cases h
    have hpath := List.forall_mem_append.2
      ⟨isPlain_whenPainting env (roundRect_draws radius r), isPlain_fillFirst mode s⟩
    exact List.forall_mem_append.2 ⟨hpath, isPlain_whenPainting env (finishPath_draws mode)⟩
  | ellipse mode r =>
    cases h
    have hpath := List.forall_mem_append.2
      ⟨isPlain_whenPainting env (ellipse_draws r), isPlain_fillFirst mode s⟩
    exact List.forall_mem_append.2 ⟨hpath, isPlain_whenPainting env (finishPath_draws mode)⟩
  | text mode x y content maxWidth =>
    cases h
    have hcolor : ∀ c ∈ (if mode.fills then [CanvasCall.fillColor s.text] else []),
        c.isPlain = true := by
      cases mode <;> simp [PaintMode.fills, CanvasCall.isPlain, CanvasCall.stacks,
        CanvasCall.isPicture]
    have htext := List.forall_mem_append.2
      ⟨hcolor, isPlain_whenPainting env (text_draws mode x y content maxWidth)⟩
    exact List.forall_mem_append.2 ⟨htext, List.forall_mem_singleton.2 rfl⟩
  | strokeColor | lineWidth | fontFamily | font | transform | resetTransform =>
    cases h
    exact List.forall_mem_singleton.2 rfl
  | reset | band | update | image | grid | page | editor => cases h
  | _ =>
    cases h
    exact List.forall_mem_nil _

theorem debugBox_rendered (env : PaintEnv) (r : DeviceRect) (c : ImageCache) :
    Rendered c (c, Effect.calls (whenPainting env (debugBox r))) := by
  rw [whenPainting]
  split
  · apply Rendered.calls c
    · have hframe : Bracketed [.strokeColor Color.pureRed, .strokeRect r] :=
        .call rfl (.call rfl .nil)
      exact hframe.framed
    · simp [debugBox, CanvasCall.isPicture]
  · exact .plain c (List.forall_mem_nil _)

theorem draw_of_execute {s' : PaintState} {k : Command} (h : execute env s k = some (s', cs))
    (images : ImageCache) : draw env s images k = (s', images, Effect.calls cs) := by
  cases k with
  | reset | band | update | image | grid | page | editor => cases h
  | _ =>
    rw [draw]
    · rw [h]
    all_goals simp

theorem draw_rendered (env : PaintEnv) (s : PaintState) (c : ImageCache) (k : Command) :
    Rendered c (draw env s c k).2 := by
  cases hexecute : execute env s k with
  | some r =>
    rw [draw_of_execute hexecute]
    exact .plain c (execute_isPlain hexecute)
  | none =>
    cases k with
    | image i => exact c.draw_rendered env.painting i
    | editor e =>
      cases e with
      | debugBox r => exact debugBox_rendered env r c
      | _ => exact .unseen c (List.forall_mem_nil _)
    | reset | band | update | grid | page => exact .unseen c (List.forall_mem_nil _)
    | rect action => cases action <;> cases hexecute
    | _ => cases hexecute

theorem runSteps_rendered (ratio : Float) (xs : List Step) (s : PaintState) (c : ImageCache) :
    Rendered c (runSteps ratio xs s c) := by
  induction xs generalizing s c with
  | nil => exact .unseen c (List.forall_mem_nil _)
  | cons x xs ih =>
    obtain ⟨r, next⟩ := x
    cases r with
    | error e => exact ih s c
    | ok k => exact (draw_rendered ⟨ratio, true⟩ s c k).append (ih _ _)

end Paint

theorem PaintState.styleCalls_rendered (s : PaintState) (c : ImageCache) :
    Rendered c (c, Effect.calls s.styleCalls) := by
  apply Rendered.plain c
  simp [styleCalls, CanvasCall.isPlain, CanvasCall.stacks, CanvasCall.isPicture]

namespace Fragment

theorem replay_rendered (ratio : Float) (f : Fragment) (c : ImageCache) :
    Rendered c (f.replay ratio c) := by
  rw [replay_eq_runSteps]
  exact (PaintState.initial.styleCalls_rendered c).append
    (Paint.runSteps_rendered ratio f.replayed PaintState.initial c)

theorem replayAll_rendered (ratio : Float) (fs : List Fragment) (c : ImageCache) :
    Rendered c (replayAll ratio fs c) := by
  induction fs generalizing c with
  | nil => exact .unseen c (List.forall_mem_nil _)
  | cons f fs ih => exact (f.replay_rendered ratio c).append (ih _)

end Fragment

namespace Document

/-- What an operation has made of the pictures of a document, and of its canvas. -/
def Renders (d : Document) (o : Outcome) : Prop :=
  Rendered d.images (o.document.images, o.effects)

variable (host : WidgetHost) (d : Document)

theorem gridLines_isPlain (onMajor : Bool) : ∀ c ∈ d.gridLines onMajor, c.isPlain = true := by
  intro c hc
  simp only [gridLines, List.mem_append, List.mem_cons, List.mem_flatMap, List.not_mem_nil,
    or_false] at hc
  rcases hc with (((rfl | rfl | rfl) | ⟨x, _, rfl | rfl⟩) | ⟨y, _, rfl | rfl⟩) | rfl <;> rfl

theorem grid_isPlain : ∀ c ∈ d.grid, c.isPlain = true := by
  rw [grid]
  split
  · exact List.forall_mem_append.2 ⟨d.gridLines_isPlain false, d.gridLines_isPlain true⟩
  · exact List.forall_mem_nil _

theorem clearPage_bracketed : Bracketed d.clearPage := by
  have hgrid : Bracketed d.grid :=
    .of_forall fun c hc => CanvasCall.stacks_of_isPlain (d.grid_isPlain c hc)
  have hfill : Bracketed ([.transform Affine.identity, .fillColor d.background,
      .fillRect ⟨0, 0, d.canvasWidth, d.canvasHeight⟩] ++ d.grid) :=
    .call rfl (.call rfl (.call rfl hgrid))
  exact hfill.framed

theorem isPicture_clearPage : ∀ c ∈ d.clearPage, c.isPicture = false := by
  intro c hc
  simp only [clearPage, List.mem_append, List.mem_cons, List.not_mem_nil, or_false] at hc
  rcases hc with ((rfl | rfl | rfl | rfl) | hgrid) | rfl
  case inl.inr => exact CanvasCall.isPicture_of_isPlain (d.grid_isPlain c hgrid)
  all_goals rfl

theorem clearPage_renders : d.Renders ⟨d, Effect.calls d.clearPage⟩ :=
  .calls d.images d.clearPage_bracketed d.isPicture_clearPage

theorem repaint_renders : d.Renders d.repaint := by
  have hreplay := Fragment.replayAll_rendered d.ratio d.fragments d.images
  have hclear := d.clearPage_renders
  have hpage := hclear.append hreplay
  -- the whole repaint stands between one save and its restore
  have heffects : d.repaint.effects = Effect.calls [.save] ++
      (Effect.calls d.clearPage ++ (Fragment.replayAll d.ratio d.fragments d.images).2) ++
        Effect.calls [.restore] := rfl
  constructor
  · exact d.repaint_draws.asked d.images
  · rw [heffects, Effect.asked_append, Effect.asked_append, Effect.asked_calls, Effect.asked_calls,
      List.append_nil]
    exact hpage.named
  · rw [heffects, Effect.made_append, Effect.made_append, Effect.made_calls, Effect.made_calls]
    exact hpage.bracketed.framed
  · intro b source target hmem
    rw [heffects, Effect.made_append, Effect.made_append, Effect.made_calls, Effect.made_calls] at hmem
    have hinner : .drawImage b source target ∈ Effect.made (Effect.calls d.clearPage ++
        (Fragment.replayAll d.ratio d.fragments d.images).2) := by
      simpa using hmem
    exact hpage.arrived b source target hinner
  · intro hdrop
    have hdraws := d.repaint_draws.draws d.images _ hdrop
    cases hdraws

theorem Response.renders {o : Outcome} (h : Response host d o) : d.Renders o := by
  induction h with
  | quiet d => exact .unseen _ (List.forall_mem_nil _)
  | andThen _ _ ih ih' => exact ih.append ih'
  | clear d => exact d.clearPage_renders
  | restyle d => exact PaintState.initial.styleCalls_rendered d.images
  | draw d p k => exact Paint.draw_rendered ⟨d.ratio, p.painting⟩ p.paint d.images k
  | repaint d => exact d.repaint_renders
  | define d source position b =>
    rw [defineBand, Renders]
    dsimp only
    split
    · have hplain : ∀ c ∈ [CanvasCall.clearRect ⟨0, b.y, d.canvasWidth, b.height⟩], c.isPlain = true :=
        List.forall_mem_singleton.2 rfl
      exact .plain d.images hplain
    · exact .unseen _ (List.forall_mem_nil _)
  | drop | pend | measure => exact .unseen _ (List.forall_mem_nil _)
  | hide | «show» | scroll => exact .unseen _ (List.forall_mem_singleton.2 rfl)
  | overlay => exact .unseen _ (Effect.isUnseen_widgets _)
  | complain | page | pageCount | pageNumber => exact .unseen _ (Effect.isUnseen_ofEvent? _)

theorem resizeCanvas_renders : d.Renders d.resizeCanvas := by
  apply Rendered.calls d.images
  · exact .call rfl d.clearPage_bracketed
  · exact List.forall_mem_cons.2 ⟨rfl, d.isPicture_clearPage⟩

theorem isUnseen_hideMenu : ∀ e ∈ d.hideMenu.effects, e.isUnseen = true := by
  rw [hideMenu]
  split
  · exact List.forall_mem_singleton.2 rfl
  · exact List.forall_mem_nil _

/-- An operation first takes the loads that it brings, and then paints with what the cache holds. -/
theorem operation_rendered {op : DocumentOperation} (hop : op.resets = false) :
    Rendered (completeLoads op.loads d.images).2
      ((op.run host d).document.images, (op.run host d).effects) := by
  cases op with
  | message text => exact (d.handleMessage_response host text).renders host d
  | paint commands => exact (d.live_response host _).renders host d
  | repaint => exact d.repaint_renders
  | tick now loads =>
    rw [DocumentOperation.run]
    obtain ⟨timer, -, htick | htick⟩ := d.tick_cases now loads
    · rw [htick]
      exact repaint_renders { d with images := (completeLoads loads d.images).2, timer }
    · rw [htick]
      exact .unseen _ (List.forall_mem_nil _)
  | pointer y => exact (d.pointerMoved_response host y).renders host d
  | zoom z => exact resizeCanvas_renders { d with scale := d.scale.withZoom z }
  | page width height rightMargin =>
    exact resizeCanvas_renders { d with rightMargin, scale := d.scale.withPage width height }
  | editable b =>
    rw [DocumentOperation.run, setEditable]
    split
    · exact .unseen _ (List.forall_mem_nil _)
    · exact (hideMenu_response host { d with editable := b }).renders host { d with editable := b }
  | fontsLoaded | background | viewport | paging => exact .unseen _ (List.forall_mem_nil _)
  | reset => cases hop

end Document

end BandCanvas
