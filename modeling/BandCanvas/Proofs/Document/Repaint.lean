import BandCanvas.Proofs.Asset.Fetch
import BandCanvas.Proofs.Document.Pass
import BandCanvas.Proofs.Paint.Drawn

namespace BandCanvas

namespace Effect

def asked (es : List Effect) : List String :=
  es.filterMap fun
    | .request path => some path
    | _ => none

theorem asked_append (es es' : List Effect) : asked (es ++ es') = asked es ++ asked es' :=
  List.filterMap_append

theorem asked_calls (cs : List CanvasCall) : asked (calls cs) = [] :=
  List.filterMap_eq_nil_iff.2 fun _ h => by
    obtain ⟨c, _, rfl⟩ := List.mem_map.1 h
    rfl

def draws : Effect → Bool
  | .call _ | .request _ => true
  | _ => false

theorem draws_of_mem_calls {cs : List CanvasCall} : ∀ e ∈ calls cs, e.draws = true := by
  intro e he
  obtain ⟨c, _, rfl⟩ := List.mem_map.1 he
  rfl

end Effect

/-- Painting with the pictures of a cache makes calls, and requests for the paths that the cache did not know.
-/
structure Draws (paint : ImageCache → ImageCache × List Effect) : Prop where
  draws (c : ImageCache) : ∀ e ∈ (paint c).2, e.draws = true
  asked (c : ImageCache) : c.Asked (paint c).1 (Effect.asked (paint c).2)
  made (c e : ImageCache) :
    (∀ p, e.ready? p = c.ready? p) → Effect.made (paint e).2 = Effect.made (paint c).2
  known (c e : ImageCache) :
    (paint c).1.Extends e → (paint e).1 = e ∧ Effect.asked (paint e).2 = []

namespace Draws

variable {paint next : ImageCache → ImageCache × List Effect}

theorem calls (cs : List CanvasCall) : Draws fun c => (c, Effect.calls cs) where
  draws _ := Effect.draws_of_mem_calls
  asked c := by
    rw [Effect.asked_calls]
    exact .refl c
  made _ _ _ := rfl
  known _ _ _ := ⟨rfl, Effect.asked_calls cs⟩

theorem append (h : Draws paint) (h' : Draws next) :
    Draws fun c => ((next (paint c).1).1, (paint c).2 ++ (next (paint c).1).2) where
  draws c e he := (List.mem_append.1 he).elim (h.draws c e) (h'.draws (paint c).1 e)
  asked c := by
    rw [Effect.asked_append]
    exact (h.asked c).trans (h'.asked (paint c).1)
  made c e heq := by
    have hnext : ∀ p, (paint e).1.ready? p = (paint c).1.ready? p := by
      intro p
      rw [(h.asked e).toExtends.ready, (h.asked c).toExtends.ready, heq]
    rw [Effect.made_append, Effect.made_append, h.made c e heq, h'.made _ _ hnext]
  known c e hext := by
    -- the second part only adds to what the first one has asked for
    have hfirst : (paint c).1.Extends e := (h'.asked (paint c).1).toExtends.trans hext
    obtain ⟨hsame, hnone⟩ := h.known c e hfirst
    obtain ⟨hsame', hnone'⟩ := h'.known (paint c).1 e hext
    refine ⟨?_, ?_⟩
    · rw [hsame, hsame']
    · rw [hsame, Effect.asked_append, hnone, hnone']
      rfl

end Draws

namespace ImageCache

variable {c e : ImageCache} {painting : Bool} {i : ImageCommand}

/-- What the canvas is told where a picture has arrived. -/
def place (painting : Bool) (i : ImageCommand) (b : Bitmap) : List CanvasCall :=
  let placed := i.fitting.place b.width.toFloat b.height.toFloat
  if painting then [.drawImage b placed.source placed.target] else []

theorem draw_unnamed (hpath : i.path.isEmpty = true) (c : ImageCache) : c.draw painting i = (c, []) := by
  rw [draw, hpath, if_pos rfl]

theorem draw_cases (hpath : i.path.isEmpty = false) (painting : Bool) (c : ImageCache) :
    (c.get? i.path = none ∧
      ∃ c', c.Asked c' [i.path] ∧ c.draw painting i = (c', [.request i.path])) ∨
    (c.get? i.path ≠ none ∧
      c.draw painting i = (c, Effect.calls ((c.ready? i.path).elim [] (place painting i)))) := by
  rw [draw, hpath, if_neg Bool.false_ne_true]
  rcases beginFetch_cases i.path c with ⟨hget, htaken, hasked⟩ | ⟨hget, hfetch⟩
  · refine .inl ⟨hget, _, hasked, ?_⟩
    generalize c.beginFetch i.path = r at htaken ⊢
    obtain ⟨taken, c'⟩ := r
    obtain rfl : taken = true := htaken
    rfl
  · refine .inr ⟨hget, ?_⟩
    rw [hfetch]
    dsimp only
    cases c.ready? i.path with
    | none => rfl
    | some b => cases painting <;> rfl

theorem draw_made (hpath : i.path.isEmpty = false) (painting : Bool) (c : ImageCache) :
    Effect.made (c.draw painting i).2 = (c.ready? i.path).elim [] (place painting i) := by
  rcases draw_cases hpath painting c with ⟨hget, c', -, hdraw⟩ | ⟨-, hdraw⟩
  · rw [hdraw, ready?, hget]
    rfl
  · rw [hdraw]
    exact Effect.made_calls _

theorem draw_extends (hpath : i.path.isEmpty = false) (hext : (c.draw painting i).1.Extends e) :
    e.get? i.path ≠ none := by
  intro hunknown
  have hlack := hext.known i.path hunknown
  rcases draw_cases hpath painting c with ⟨-, c', hasked, hdraw⟩ | ⟨hknown, hdraw⟩
  · rw [hdraw, hasked.get?_eq, if_pos List.mem_cons_self] at hlack
    cases hlack
  · rw [hdraw] at hlack
    exact hknown hlack

theorem draw_draws (painting : Bool) (i : ImageCommand) : Draws fun c => c.draw painting i := by
  cases hpath : i.path.isEmpty with
  | true =>
    have hnothing : (fun c : ImageCache => c.draw painting i) = fun c => (c, Effect.calls []) :=
      funext (draw_unnamed hpath)
    rw [hnothing]
    exact .calls []
  | false =>
    refine ⟨fun c => ?_, fun c => ?_, fun c e hready => ?_, fun c e hext => ?_⟩
    · rcases draw_cases hpath painting c with ⟨-, c', -, hdraw⟩ | ⟨-, hdraw⟩
      · rw [hdraw]
        exact List.forall_mem_singleton.2 rfl
      · rw [hdraw]
        exact Effect.draws_of_mem_calls
    · rcases draw_cases hpath painting c with ⟨-, c', hasked, hdraw⟩ | ⟨-, hdraw⟩
      · rw [hdraw]
        exact hasked
      · rw [hdraw, Effect.asked_calls]
        exact .refl c
    · rw [draw_made hpath, draw_made hpath, hready]
    · rcases draw_cases hpath painting e with ⟨hget, -⟩ | ⟨-, hdraw⟩
      · exact absurd hget (draw_extends hpath hext)
      · rw [hdraw]
        exact ⟨rfl, Effect.asked_calls _⟩

end ImageCache

namespace Paint

/-- Pictures apart, a command makes the same calls with any cache. -/
theorem draw_cases (env : PaintEnv) (s : PaintState) (k : Command) :
    (∃ i, ∀ c, draw env s c k = (s, c.draw env.painting i)) ∨
      ∃ s' cs, ∀ c, draw env s c k = (s', c, Effect.calls cs) := by
  cases k with
  | image i => exact .inl ⟨i, fun _ => rfl⟩
  | editor e =>
    cases e with
    | debugBox r => exact .inr ⟨s, _, fun _ => rfl⟩
    | _ => exact .inr ⟨s, [], fun _ => rfl⟩
  | rect action r => cases action <;> exact .inr ⟨_, _, fun _ => rfl⟩
  | reset | band | update | grid | page => exact .inr ⟨s, [], fun _ => rfl⟩
  | _ => exact .inr ⟨_, _, fun _ => rfl⟩

theorem runSteps_draws (ratio : Float) (xs : List Step) (s : PaintState) :
    Draws (runSteps ratio xs s) := by
  induction xs generalizing s with
  | nil => exact .calls []
  | cons x xs ih =>
    obtain ⟨r, next⟩ := x
    cases r with
    | error e => exact ih s
    | ok k =>
      rcases draw_cases ⟨ratio, true⟩ s k with ⟨i, hdraw⟩ | ⟨s', cs, hdraw⟩
      · have hrun : runSteps ratio ((.ok k, next) :: xs) s = fun c =>
            ((runSteps ratio xs s (c.draw true i).1).1,
              (c.draw true i).2 ++ (runSteps ratio xs s (c.draw true i).1).2) := by
          funext c
          rw [runSteps, hdraw]
        rw [hrun]
        exact (ImageCache.draw_draws true i).append (ih s)
      · have hrun : runSteps ratio ((.ok k, next) :: xs) s = fun c =>
            ((runSteps ratio xs s' c).1, Effect.calls cs ++ (runSteps ratio xs s' c).2) := by
          funext c
          rw [runSteps, hdraw]
        rw [hrun]
        exact (Draws.calls cs).append (ih s')

end Paint

namespace Fragment

theorem replay_draws (ratio : Float) (f : Fragment) : Draws (f.replay ratio) := by
  have hreplay : f.replay ratio = fun c =>
      ((Paint.runSteps ratio f.replayed PaintState.initial c).1,
        Effect.calls PaintState.initial.styleCalls ++
          (Paint.runSteps ratio f.replayed PaintState.initial c).2) := by
    funext c
    exact replay_eq_runSteps ratio f c
  rw [hreplay]
  exact (Draws.calls PaintState.initial.styleCalls).append
    (Paint.runSteps_draws ratio f.replayed PaintState.initial)

theorem replayAll_draws (ratio : Float) (fs : List Fragment) : Draws (replayAll ratio fs) := by
  induction fs with
  | nil => exact .calls []
  | cons f fs ih => exact (f.replay_draws ratio).append ih

/-- The calls of a replay do not depend on what was replayed before it. -/
theorem replayAll_made (ratio : Float) (fs : List Fragment) (c : ImageCache) :
    Effect.made (replayAll ratio fs c).2 = fs.flatMap fun f => Effect.made (f.replay ratio c).2 := by
  induction fs generalizing c with
  | nil => rfl
  | cons f fs ih =>
    have hready := ((f.replay_draws ratio).asked c).toExtends.ready
    have hrest := (replayAll_draws ratio fs).made c (f.replay ratio c).1 hready
    rw [List.flatMap_cons, ← ih c, ← hrest]
    exact Effect.made_append _ _

end Fragment

namespace Document

theorem repaint_draws (d : Document) :
    Draws fun c =>
      ((Fragment.replayAll d.ratio d.fragments c).1,
        Effect.calls (.save :: d.clearPage) ++ (Fragment.replayAll d.ratio d.fragments c).2 ++
          Effect.calls [.restore]) := by
  have hfragments := (Draws.calls (.save :: d.clearPage)).append
    (Fragment.replayAll_draws d.ratio d.fragments)
  exact hfragments.append (.calls [.restore])

/-- Repainting clears the page and replays each fragment once, and leaves the document but for pictures that it
asks for. -/
theorem repaint_only_draws (d : Document) :
    d.repaint.document =
      { d with images := d.repaint.document.images, timer := d.timer.cancel } ∧
    (∀ e ∈ d.repaint.effects, e.draws = true) ∧
    d.images.Asked d.repaint.document.images (Effect.asked d.repaint.effects) ∧
    (Effect.made d.repaint.effects =
      .save :: d.clearPage ++
        (d.fragments.flatMap fun f => Effect.made (f.replay d.ratio d.images).2) ++ [.restore]) ∧
    (∀ f ∈ d.fragments,
      (f.replay d.ratio d.images).2 = Effect.calls PaintState.initial.styleCalls ++
        (Paint.runSteps d.ratio f.replayed PaintState.initial d.images).2 ∧
      ∀ x ∈ f.replayed, Step.finds Command.endsReplay x = false) ∧
    d.repaint.document.repaint.document = d.repaint.document ∧
    Effect.made d.repaint.document.repaint.effects = Effect.made d.repaint.effects ∧
    Effect.asked d.repaint.document.repaint.effects = [] := by
  have hdraws := d.repaint_draws
  have hasked : d.images.Asked d.repaint.document.images (Effect.asked d.repaint.effects) := hdraws.asked d.images
  obtain ⟨hsame, hnone⟩ := hdraws.known d.images d.repaint.document.images
    ⟨fun _ h => h, fun _ => rfl⟩
  refine ⟨rfl, hdraws.draws d.images, hasked, ?_, fun f _ => ⟨?_, ?_⟩, ?_, ?_, hnone⟩
  · show Effect.made (_ ++ _ ++ Effect.calls [.restore]) = _
    rw [Effect.made_append, Effect.made_append, Effect.made_calls, Effect.made_calls,
      Fragment.replayAll_made]
  · rw [Fragment.replay_eq_runSteps]
  · exact Step.not_finds_of_before fun _ h => h
  · exact congrArg (fun images => { d with images, timer := d.timer.cancel }) hsame
  · exact hdraws.made d.images d.repaint.document.images hasked.toExtends.ready

end Document

end BandCanvas
