import BandCanvas.Document.Replay
import BandCanvas.Proofs.Canvas.Drawing

namespace BandCanvas

namespace Effect

def call? : Effect → Option CanvasCall
  | .call c => some c
  | _ => none

def made (es : List Effect) : List CanvasCall :=
  es.filterMap call?

@[simp]
theorem made_append (es es' : List Effect) : made (es ++ es') = made es ++ made es' :=
  List.filterMap_append

@[simp]
theorem made_calls (cs : List CanvasCall) : made (calls cs) = cs := by
  rw [made, calls, List.filterMap_map]
  exact List.filterMap_some

@[simp]
theorem made_widgets (as : List (String × WidgetAction)) : made (widgets as) = [] :=
  List.filterMap_eq_nil_iff.2 fun _ h => by
    obtain ⟨a, _, rfl⟩ := List.mem_map.1 h
    rfl

@[simp]
theorem made_ofEvent? (e : Option DocumentEvent) : made (ofEvent? e) = [] := by
  cases e <;> rfl

end Effect

/-- The state without the measures of the font. -/
def PaintState.plain (s : PaintState) : PaintState :=
  { s with metrics := FontMetrics.zero }

namespace Paint

/-- What a command makes of the drawing state, and its calls. Pictures are left out. -/
def drawn (env : PaintEnv) (s : PaintState) : Command → PaintState × List CanvasCall
  | .editor (.debugBox r) => (s, whenPainting env (debugBox r))
  | command => (execute env s command).getD (s, [])

variable {env : PaintEnv} {s t : PaintState} {cs : List CanvasCall}

theorem line_draws (x1 y1 x2 y2 : Float) : ∀ c ∈ line env s x1 y1 x2 y2, c.draws := by
  simp [line, CanvasCall.draws]

theorem finishPath_draws (mode : PaintMode) : ∀ c ∈ finishPath mode, c.draws := by
  cases mode <;> simp [finishPath, PaintMode.fills, PaintMode.strokes, CanvasCall.draws]

theorem rectangle_draws (a : RectAction) (r : DeviceRect) : ∀ c ∈ rectangle a r, c.draws := by
  cases a with
  | clear => simp [rectangle, CanvasCall.draws]
  | paint mode => cases mode <;> simp [rectangle, CanvasCall.draws]

theorem roundRect_draws (radius : Float) (r : DeviceRect) : ∀ c ∈ roundRect radius r, c.draws := by
  simp [roundRect, CanvasCall.draws]

theorem ellipse_draws (r : DeviceRect) : ∀ c ∈ ellipse r, c.draws := by
  simp [ellipse, CanvasCall.draws]

theorem text_draws (mode : PaintMode) (x y : Float) (content : String) (maxWidth : Option Float) :
    ∀ c ∈ text mode x y content maxWidth, c.draws := by
  cases mode <;> simp [text, PaintMode.fills, PaintMode.strokes, CanvasCall.draws]

theorem whenPainting_draws (env : PaintEnv) (h : ∀ c ∈ cs, c.draws) :
    ∀ c ∈ whenPainting env cs, c.draws := by
  intro c hc
  rw [whenPainting] at hc
  split at hc
  · exact h c hc
  · cases hc

theorem balanced_whenPainting (h : Balanced cs) : Balanced (whenPainting env cs) := by
  rw [whenPainting]
  split
  · exact h
  · exact Balanced.nil

theorem balanced_fillFirst (mode : PaintMode) : Balanced (fillFirst mode s) := by
  rw [fillFirst]
  split
  · exact Balanced.single rfl
  · exact Balanced.nil

theorem balanced_debugBox (r : DeviceRect) : Balanced (debugBox r) :=
  Balanced.framed ((Balanced.single (c := .strokeColor Color.pureRed) rfl).append
    (Balanced.single (c := .strokeRect r) rfl))

theorem drawn_balanced (env : PaintEnv) (s : PaintState) (k : Command) :
    Balanced (drawn env s k).2 := by
  cases k with
  | editor e =>
    cases e with
    | debugBox r => exact balanced_whenPainting (balanced_debugBox r)
    | _ => exact Balanced.nil
  | line x1 y1 x2 y2 => exact Balanced.of_draws (whenPainting_draws env (line_draws x1 y1 x2 y2))
  | rect a r =>
    cases a with
    | clear => exact Balanced.of_draws (whenPainting_draws env (rectangle_draws .clear r))
    | paint mode =>
      exact (balanced_fillFirst mode).append
        (Balanced.of_draws (whenPainting_draws env (rectangle_draws (.paint mode) r)))
  | roundRect mode radius r =>
    have hpath := Balanced.of_draws (whenPainting_draws env (roundRect_draws radius r))
    exact (hpath.append (balanced_fillFirst mode)).append
      (Balanced.of_draws (whenPainting_draws env (finishPath_draws mode)))
  | ellipse mode r =>
    have hpath := Balanced.of_draws (whenPainting_draws env (ellipse_draws r))
    exact (hpath.append (balanced_fillFirst mode)).append
      (Balanced.of_draws (whenPainting_draws env (finishPath_draws mode)))
  | text mode x y content maxWidth =>
    have hcolor : Balanced (if mode.fills then [.fillColor s.text] else []) := by
      split
      · exact Balanced.single rfl
      · exact Balanced.nil
    have htext := Balanced.of_draws
      (whenPainting_draws env (text_draws mode x y content maxWidth))
    exact (hcolor.append htext).append (Balanced.single rfl)
  | strokeColor | lineWidth | fontFamily | font | transform | resetTransform =>
    exact Balanced.single rfl
  | _ => exact Balanced.nil

theorem drawn_congr (env : PaintEnv) (h : s.plain = t.plain) (k : Command) :
    (drawn env s k).1.plain = (drawn env t k).1.plain ∧ (drawn env s k).2 = (drawn env t k).2 := by
  obtain ⟨fill, text, stroke, lineWidth, font, metrics, transform⟩ := s
  obtain ⟨fill', text', stroke', lineWidth', font', metrics', transform'⟩ := t
  simp only [PaintState.plain, PaintState.mk.injEq, true_and] at h
  obtain ⟨rfl, rfl, rfl, rfl, rfl, rfl⟩ := h
  cases k with
  | rect a r => cases a <;> exact ⟨rfl, rfl⟩
  | editor e => cases e <;> exact ⟨rfl, rfl⟩
  | _ => exact ⟨rfl, rfl⟩

/-- Effects that draw and set the same as some calls, pictures left out. -/
structure Makes (es : List Effect) (cs : List CanvasCall) : Prop where
  run : ∀ p : Pen, p.run (Effect.made es) = p.run cs
  drawings : ∀ p : Pen, p.drawings (Effect.made es) = p.drawings cs

namespace Makes

variable {es : List Effect}

theorem of_made (h : Effect.made es = cs) : Makes es cs :=
  ⟨fun p => by rw [h], fun p => by rw [h]⟩

end Makes

theorem image_makes (painting : Bool) (i : ImageCommand) (images : ImageCache) :
    Makes (images.draw painting i).2 [] := by
  rw [ImageCache.draw]
  split
  · exact Makes.of_made rfl
  split
  · exact Makes.of_made rfl
  split
  · cases painting with
    | true => exact ⟨fun _ => rfl, fun _ => rfl⟩
    | false => exact Makes.of_made rfl
  · exact Makes.of_made rfl

theorem draw_makes (env : PaintEnv) (s : PaintState) (images : ImageCache) (k : Command) :
    (draw env s images k).1 = (drawn env s k).1 ∧
      Makes (draw env s images k).2.2 (drawn env s k).2 := by
  cases k with
  | image i => exact ⟨rfl, image_makes env.painting i images⟩
  | editor e =>
    cases e with
    | debugBox r => exact ⟨rfl, Makes.of_made (Effect.made_calls _)⟩
    | _ => exact ⟨rfl, Makes.of_made rfl⟩
  | rect a r => cases a <;> exact ⟨rfl, Makes.of_made (Effect.made_calls _)⟩
  | line | roundRect | text | ellipse => exact ⟨rfl, Makes.of_made (Effect.made_calls _)⟩
  | _ => exact ⟨rfl, Makes.of_made rfl⟩

end Paint

end BandCanvas
