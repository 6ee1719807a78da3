import BandCanvas.Proofs.Document.Pass
import BandCanvas.Proofs.Paint.LiveStyle

namespace BandCanvas

namespace PaintState

/-- The canvas has the style of a drawing state. Its fill colour may be another one. -/
structure ShownBy (s : PaintState) (t : Style) : Prop where
  transform : t.transform = s.transform
  stroke : t.stroke = s.stroke
  lineWidth : t.lineWidth = s.lineWidth
  font : t.font = s.font

/-- A call that fills does so with the colour of a drawing state: areas with the fill colour, and texts with
that of text. -/
def Fills (s : PaintState) (t : Style) : CanvasCall → Prop
  | .fill | .fillRect _ => t.fill = s.fill
  | .fillText .. => t.fill = s.text
  | _ => True

/-- Calls that draw under the style of a drawing state, and leave it to the canvas. -/
structure Shows (s : PaintState) (p : Pen) (cs : List CanvasCall) : Prop where
  drawn : ∀ x ∈ p.drawings cs, s.ShownBy x.1 ∧ s.Fills x.1 x.2
  style : s.ShownBy (p.run cs).style

variable {s : PaintState} {t : Style} {p : Pen} {b : LiveStyle} {c : CanvasCall}
  {cs ds : List CanvasCall}

theorem ShownBy.of_tracks (hs : s.plain = b.state) (ht : t = b.style) : s.ShownBy t := by
  obtain ⟨state, fill⟩ := b
  obtain rfl : s.plain = state := hs
  subst ht
  constructor <;> rfl

theorem ShownBy.eq_style (h : s.ShownBy t) : t = (⟨s.plain, t.fill⟩ : LiveStyle).style := by
  obtain ⟨transform, fill, stroke, lineWidth, font⟩ := t
  obtain ⟨htransform, hstroke, hwidth, hfont⟩ := h
  dsimp only at htransform hstroke hwidth hfont
  rw [htransform, hstroke, hwidth, hfont]
  rfl

theorem ShownBy.withFill (h : s.ShownBy t) (c : Color) : s.ShownBy { t with fill := c } :=
  { h with }

namespace Shows

theorem nil (hs : s.ShownBy p.style) : s.Shows p [] :=
  ⟨List.forall_mem_nil _, hs⟩

theorem append (h : s.Shows p cs) (h' : s.Shows (p.run cs) ds) : s.Shows p (cs ++ ds) := by
  constructor
  · rw [Pen.drawings_append]
    exact List.forall_mem_append.2 ⟨h.drawn, h'.drawn⟩
  · rw [Pen.run_append]
    exact h'.style

theorem fillColor (hs : s.ShownBy p.style) (c : Color) : s.Shows p [.fillColor c] :=
  ⟨List.forall_mem_nil _, hs.withFill c⟩

theorem of_draws (hs : s.ShownBy p.style) (hcs : ∀ c ∈ cs, c.draws)
    (hfills : ∀ c ∈ cs, s.Fills p.style c) : s.Shows p cs := by
  induction cs with
  | nil => exact nil hs
  | cons c cs ih =>
    obtain ⟨hc, hcs⟩ := List.forall_mem_cons.1 hcs
    obtain ⟨hfill, hfills⟩ := List.forall_mem_cons.1 hfills
    have hsame : p.run [c] = p := Pen.apply_of_draws p hc
    have hfirst : s.Shows p [c] := by
      constructor
      · rw [Pen.drawings, if_pos hc]
        exact List.forall_mem_singleton.2 ⟨hs, hfill⟩
      · rw [hsame]
        exact hs
    have hrest : s.Shows (p.run [c]) cs := by
      rw [hsame]
      exact ih hcs hfills
    exact hfirst.append hrest

end Shows

end PaintState

namespace Paint

open PaintState

variable {env : PaintEnv} {s s' : PaintState} {p : Pen} {cs ds : List CanvasCall} {k : Command}

theorem whenPainting_shows (env : PaintEnv) (hs : s.ShownBy p.style) (hcs : ∀ c ∈ cs, c.draws)
    (hfills : ∀ c ∈ cs, s.Fills p.style c) : s.Shows p (whenPainting env cs) := by
  rw [whenPainting]
  split
  · exact .of_draws hs hcs hfills
  · exact .nil hs

theorem fillFirst_shows (hs : s.ShownBy p.style) (mode : PaintMode) :
    s.Shows p (fillFirst mode s) := by
  rw [fillFirst]
  split
  · exact .fillColor hs s.fill
  · exact .nil hs

theorem fill_run_fillFirst (p : Pen) {mode : PaintMode} (hmode : mode.fills = true) (s : PaintState) :
    (p.run (fillFirst mode s)).style.fill = s.fill := by
  rw [Pen.run_fillFirst, if_pos hmode]
  rfl

theorem fills_finishPath (p : Pen) (mode : PaintMode) (s : PaintState) :
    ∀ c ∈ finishPath mode, s.Fills (p.run (fillFirst mode s)).style c := by
  cases mode with
  | stroke => exact List.forall_mem_singleton.2 trivial
  | fill => exact List.forall_mem_singleton.2 (fill_run_fillFirst p rfl s)
  | both => exact List.forall_mem_cons.2 ⟨fill_run_fillFirst p rfl s, List.forall_mem_singleton.2 trivial⟩

theorem fills_rectangle (p : Pen) (mode : PaintMode) (r : DeviceRect) (s : PaintState) :
    ∀ c ∈ rectangle (.paint mode) r, s.Fills (p.run (fillFirst mode s)).style c := by
  cases mode with
  | stroke => exact List.forall_mem_singleton.2 trivial
  | fill => exact List.forall_mem_singleton.2 (fill_run_fillFirst p rfl s)
  | both =>
    intro c hc
    simp only [rectangle, List.mem_cons, List.not_mem_nil, or_false] at hc
    rcases hc with rfl | rfl | rfl | rfl
    case inr.inr.inl => exact fill_run_fillFirst p rfl s
    all_goals trivial

theorem fills_text (p : Pen) (mode : PaintMode) (x y : Float) (content : String)
    (maxWidth : Option Float) (s : PaintState) :
    ∀ c ∈ text mode x y content maxWidth,
      s.Fills (p.run (if mode.fills then [.fillColor s.text] else [])).style c := by
  cases mode with
  | stroke => exact List.forall_mem_singleton.2 trivial
  | fill => exact List.forall_mem_singleton.2 rfl
  | both => exact List.forall_mem_cons.2 ⟨rfl, List.forall_mem_singleton.2 trivial⟩

theorem path_shows (env : PaintEnv) (hs : s.ShownBy p.style) (mode : PaintMode)
    (hcs : ∀ c ∈ cs, c.draws) (hfills : ∀ c ∈ cs, s.Fills p.style c) :
    s.Shows p (whenPainting env cs ++ fillFirst mode s ++ whenPainting env (finishPath mode)) := by
  have hpath := whenPainting_shows env hs hcs hfills
  have hcolor := hpath.append (fillFirst_shows hpath.style mode)
  apply hcolor.append
  apply whenPainting_shows env hcolor.style (finishPath_draws mode)
  rw [Pen.run_append]
  exact fills_finishPath _ mode s

theorem text_shows (env : PaintEnv) (hs : s.ShownBy p.style) (mode : PaintMode) (x y : Float)
    (content : String) (maxWidth : Option Float) :
    s.Shows p ((if mode.fills then [.fillColor s.text] else []) ++
      whenPainting env (text mode x y content maxWidth) ++ [.fillColor s.fill]) := by
  have hcolor : s.Shows p (if mode.fills then [.fillColor s.text] else []) := by
    split
    · exact .fillColor hs s.text
    · exact .nil hs
  have htext := hcolor.append (whenPainting_shows env hcolor.style
    (text_draws mode x y content maxWidth) (fills_text p mode x y content maxWidth s))
  exact htext.append (.fillColor htext.style s.fill)

/-- What a command draws has the style of the drawing state, with its fill colour and its colour of text. -/
theorem execute_drawn (hs : s.ShownBy p.style) (h : execute env s k = some (s', cs)) :
    ∀ x ∈ p.drawings cs, s.ShownBy x.1 ∧ s.Fills x.1 x.2 := by
  cases k with
  | line x1 y1 x2 y2 =>
    cases h
    apply (whenPainting_shows env hs (line_draws x1 y1 x2 y2) _).drawn
    simp [line, Fills]
  | rect action r =>
    cases action with
    | clear =>
      cases h
      apply (whenPainting_shows env hs (rectangle_draws .clear r) _).drawn
      exact List.forall_mem_singleton.2 trivial
    | paint mode =>
      cases h
      have hcolor := fillFirst_shows hs mode
      exact (hcolor.append (whenPainting_shows env hcolor.style (rectangle_draws (.paint mode) r)
        (fills_rectangle p mode r s))).drawn
  | roundRect mode radius r =>
    cases h
    apply (path_shows env hs mode (roundRect_draws radius r) _).drawn
    simp [roundRect, Fills]
  | ellipse mode r =>
    cases h
    apply (path_shows env hs mode (ellipse_draws r) _).drawn
    simp [ellipse, Fills]
  | text mode x y content maxWidth =>
    cases h
    exact (text_shows env hs mode x y content maxWidth).drawn
  | reset | band | update | image | grid | page | editor => cases h
  | _ =>
    cases h
    exact List.forall_mem_nil _

theorem drawn_shown (env : PaintEnv) (hs : s.ShownBy p.style) (hk : k.endsReplay = false) :
    (drawn env s k).1.ShownBy (p.run (drawn env s k).2).style := by
  obtain ⟨hstate, hstyle⟩ := drawn_tracks (b := ⟨s.plain, p.style.fill⟩) env rfl hs.eq_style hk
  exact .of_tracks hstate hstyle

end Paint

end BandCanvas
