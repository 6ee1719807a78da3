import BandCanvas.Proofs.Canvas.Pixels
import BandCanvas.Proofs.Paint.Drawn

namespace BandCanvas

namespace Paint

/-- Runs commands one after another, and tells which of them draw or set how things are drawn. -/
def executeAll (env : PaintEnv) : List Command → PaintState → PaintState × List Bool × List CanvasCall
  | [], s => (s, [], [])
  | k :: ks, s =>
    let done := execute env s k
    let (state, handled, calls) := executeAll env ks (done.elim s Prod.fst)
    (state, done.isSome :: handled, done.elim [] Prod.snd ++ calls)

variable {ratio : Float} {cs : List CanvasCall}

theorem setsStyle_of_draws {c : CanvasCall} (h : c.draws) : c.setsStyle = false := by
  cases c <;> first | rfl | cases h

theorem filter_whenPainting (hcs : ∀ c ∈ cs, c.draws) :
    (whenPainting ⟨ratio, true⟩ cs).filter CanvasCall.setsStyle = whenPainting ⟨ratio, false⟩ cs := by
  apply List.filter_eq_nil_iff.2
  intro c hc
  rw [setsStyle_of_draws (hcs c hc)]
  decide

theorem filter_fillFirst (mode : PaintMode) (s : PaintState) :
    (fillFirst mode s).filter CanvasCall.setsStyle = fillFirst mode s := by
  rw [fillFirst]
  split <;> rfl

/-- Painting is tested in every command by itself, between calls that set the style and calls that draw. -/
theorem execute_deferred (ratio : Float) (s : PaintState) (k : Command) :
    execute ⟨ratio, false⟩ s k =
      (execute ⟨ratio, true⟩ s k).map fun x => (x.1, x.2.filter CanvasCall.setsStyle) := by
  cases k with
  | line x1 y1 x2 y2 =>
    exact congrArg (fun cs => some (s, cs)) (filter_whenPainting (line_draws x1 y1 x2 y2)).symm
  | rect a r =>
    cases a with
    | clear => exact congrArg (fun cs => some (s, cs)) (filter_whenPainting (rectangle_draws .clear r)).symm
    | paint mode =>
      simp only [execute, Option.map_some, List.filter_append, filter_fillFirst,
        filter_whenPainting (rectangle_draws (.paint mode) r)]
  | roundRect mode radius r =>
    simp only [execute, Option.map_some, List.filter_append, filter_fillFirst,
      filter_whenPainting (roundRect_draws radius r), filter_whenPainting (finishPath_draws mode)]
  | ellipse mode r =>
    simp only [execute, Option.map_some, List.filter_append, filter_fillFirst,
      filter_whenPainting (ellipse_draws r), filter_whenPainting (finishPath_draws mode)]
  | text mode x y content maxWidth =>
    have hcolor : (if mode.fills then [CanvasCall.fillColor s.text] else []).filter CanvasCall.setsStyle =
        if mode.fills then [.fillColor s.text] else [] := by
      split <;> rfl
    simp only [execute, Option.map_some, List.filter_append, hcolor,
      filter_whenPainting (text_draws mode x y content maxWidth)]
    rfl
  | _ => rfl

theorem executeAll_deferred (ratio : Float) (ks : List Command) (s : PaintState) :
    executeAll ⟨ratio, false⟩ ks s =
      let painted := executeAll ⟨ratio, true⟩ ks s
      (painted.1, painted.2.1, painted.2.2.filter CanvasCall.setsStyle) := by
  induction ks generalizing s with
  | nil => rfl
  | cons k ks ih =>
    simp only [executeAll, execute_deferred]
    cases execute ⟨ratio, true⟩ s k with
    | none => simp only [Option.map_none, Option.elim_none, ih]; rfl
    | some x => simp [ih]

end Paint

end BandCanvas
