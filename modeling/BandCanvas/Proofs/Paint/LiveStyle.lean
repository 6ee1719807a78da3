import BandCanvas.Proofs.Paint.Drawn

namespace BandCanvas

/-- The style that a drawing state asks of the canvas. -/
def PaintState.style (s : PaintState) : Style :=
  ⟨s.transform, s.fill, s.stroke, s.lineWidth, s.font⟩

/-- The style a live pass has reached. The fill colour of the canvas follows only where a command fills. -/
@[ext]
structure LiveStyle where
  state : PaintState
  fill : Color
  deriving DecidableEq

namespace LiveStyle

def initial : LiveStyle :=
  ⟨PaintState.initial, PaintState.initial.fill⟩

def style (b : LiveStyle) : Style :=
  { b.state.style with fill := b.fill }

def fillWith (mode : PaintMode) (b : LiveStyle) : LiveStyle :=
  if mode.fills then { b with fill := b.state.fill } else b

/-- What a command of a live pass leaves. Bands and hard resets leave the style alone. -/
def after (ratio : Float) (b : LiveStyle) : Command → LiveStyle
  | .reset false => initial
  | .rect (.paint mode) _ | .roundRect mode _ _ | .ellipse mode _ => b.fillWith mode
  | .text .. => { b with fill := b.state.fill }
  | .fillColor c => { b with state.fill := c }
  | .textColor c => { b with state.text := c }
  | .strokeColor c => { b with state.stroke := c }
  | .lineWidth w => { b with state.lineWidth := if w ≤ 1 then ratio else w }
  | .fontFamily family => { b with state.font.family := family }
  | .font style size => { b with state.font.style := style, state.font.size := size }
  | .transform dx dy angle =>
    { b with state.transform := (b.state.transform.translate dx dy).rotate angle }
  | .resetTransform => { b with state.transform := Affine.identity }
  | _ => b

end LiveStyle

namespace Pen

theorem run_fillFirst (p : Pen) (mode : PaintMode) (s : PaintState) :
    p.run (Paint.fillFirst mode s) =
      if mode.fills then p.apply (.fillColor s.fill) else p := by
  rw [Paint.fillFirst]
  split <;> rfl

end Pen

namespace Paint

variable {s : PaintState} {b : LiveStyle} {p : Pen} {cs ds : List CanvasCall}

theorem style_fillFirst (hs : s.plain = b.state) (hp : p.style = b.style) (mode : PaintMode)
    (hcs : ∀ c ∈ cs, c.draws) (hds : ∀ c ∈ ds, c.draws) :
    (p.run (cs ++ fillFirst mode s ++ ds)).style = (b.fillWith mode).style := by
  rw [Pen.run_append, Pen.run_append, Pen.run_of_draws p hcs, Pen.run_of_draws _ hds,
    Pen.run_fillFirst, LiveStyle.fillWith]
  have hfill : s.fill = b.state.fill := by rw [← hs]; rfl
  split
  · simp only [Pen.apply, hp, LiveStyle.style, hfill]
  · exact hp

/-- A command that draws or sets how things are drawn takes the style along. -/
theorem drawn_tracks (env : PaintEnv) (hs : s.plain = b.state) (hp : p.style = b.style) {k : Command}
    (hk : Command.endsReplay k = false) :
    (drawn env s k).1.plain = (b.after env.ratio k).state ∧
      (p.run (drawn env s k).2).style = (b.after env.ratio k).style := by
  obtain ⟨state, fill⟩ := b
  obtain rfl : s.plain = state := hs
  cases k with
  | line x1 y1 x2 y2 =>
    refine ⟨rfl, ?_⟩
    show (p.run (whenPainting env (line env s x1 y1 x2 y2))).style = _
    rw [Pen.run_of_draws p (whenPainting_draws env (line_draws x1 y1 x2 y2))]
    exact hp
  | rect a r =>
    cases a with
    | clear =>
      refine ⟨rfl, ?_⟩
      show (p.run (whenPainting env (rectangle .clear r))).style = _
      rw [Pen.run_of_draws p (whenPainting_draws env (rectangle_draws .clear r))]
      exact hp
    | paint mode =>
      refine ⟨?_, style_fillFirst rfl hp mode (List.forall_mem_nil _)
        (whenPainting_draws env (rectangle_draws (.paint mode) r))⟩
      cases mode <;> rfl
  | roundRect mode radius r =>
    refine ⟨?_, style_fillFirst rfl hp mode (whenPainting_draws env (roundRect_draws radius r))
      (whenPainting_draws env (finishPath_draws mode))⟩
    cases mode <;> rfl
  | ellipse mode r =>
    refine ⟨?_, style_fillFirst rfl hp mode (whenPainting_draws env (ellipse_draws r))
      (whenPainting_draws env (finishPath_draws mode))⟩
    cases mode <;> rfl
  | text mode x y content maxWidth =>
    refine ⟨rfl, ?_⟩
    have hdraws := whenPainting_draws env (text_draws mode x y content maxWidth)
    show (p.run ((if mode.fills then [.fillColor s.text] else []) ++
      whenPainting env (text mode x y content maxWidth) ++ [.fillColor s.fill])).style = _
    rw [Pen.run_append, Pen.run_append, Pen.run_of_draws _ hdraws]
    have hfill : (p.run ((if mode.fills then [.fillColor s.text] else []) ++
        [.fillColor s.fill])).style = { p.style with fill := s.fill } := by
      cases mode <;> rfl
    rw [Pen.run_append, hp] at hfill
    exact hfill
  | editor e =>
    cases e with
    | debugBox r =>
      refine ⟨rfl, ?_⟩
      show (p.run (whenPainting env (debugBox r))).style = _
      rw [whenPainting]
      split <;> exact hp
    | _ => exact ⟨rfl, hp⟩
  | strokeColor | lineWidth | fontFamily | font | transform | resetTransform =>
    refine ⟨rfl, ?_⟩
    simp only [drawn, execute, Option.getD_some, Pen.run, List.foldl_cons, List.foldl_nil,
      Pen.apply, hp]
    rfl
  | reset | band | update => cases hk
  | _ => exact ⟨rfl, hp⟩

end Paint

end BandCanvas
