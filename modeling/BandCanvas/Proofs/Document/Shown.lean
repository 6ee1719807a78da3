import BandCanvas.Proofs.Document.Rendering
import BandCanvas.Proofs.Paint.Shown

namespace BandCanvas

namespace Paint

def stateAfter (ratio : Float) (s : PaintState) : List Step → PaintState
  | [] => s
  | (.ok k, _) :: xs => stateAfter ratio (drawn ⟨ratio, true⟩ s k).1 xs
  | (.error _, _) :: xs => stateAfter ratio s xs

variable {ratio : Float} {s s' : PaintState} {p : Pen} {cs : List CanvasCall} {k : Command}

theorem stateAfter_append (ratio : Float) (s : PaintState) (xs ys : List Step) :
    stateAfter ratio s (xs ++ ys) = stateAfter ratio (stateAfter ratio s xs) ys := by
  induction xs generalizing s with
  | nil => rfl
  | cons x xs ih =>
    obtain ⟨r, c⟩ := x
    cases r with
    | error e => exact ih s
    | ok k => exact ih _

theorem runSteps_append (ratio : Float) (xs ys : List Step) (s : PaintState) (images : ImageCache) :
    (runSteps ratio (xs ++ ys) s images).2 =
      (runSteps ratio xs s images).2 ++
        (runSteps ratio ys (stateAfter ratio s xs) (runSteps ratio xs s images).1).2 := by
  induction xs generalizing s images with
  | nil => rfl
  | cons x xs ih =>
    obtain ⟨r, c⟩ := x
    cases r with
    | error e => exact ih s images
    | ok k =>
      have hstate := (draw_makes ⟨ratio, true⟩ s images k).1
      rw [List.cons_append, runSteps, runSteps, stateAfter, ← hstate]
      simp only [ih, List.append_assoc]

theorem drawn_of_execute {env : PaintEnv} (h : execute env s k = some (s', cs)) :
    drawn env s k = (s', cs) := by
  cases k with
  | reset | band | update | image | grid | page | editor => cases h
  | _ => exact congrArg (fun r => Option.getD r (s, [])) h

theorem runSteps_shown {xs : List Step} (hs : s.ShownBy p.style)
    (hxs : ∀ x ∈ xs, Step.finds Command.endsReplay x = false) (images : ImageCache) :
    (stateAfter ratio s xs).ShownBy (p.run (Effect.made (runSteps ratio xs s images).2)).style := by
  induction xs generalizing s p images with
  | nil => exact hs
  | cons x xs ih =>
    obtain ⟨hx, htail⟩ := List.forall_mem_cons.1 hxs
    obtain ⟨r, c⟩ := x
    cases r with
    | error e => exact ih hs htail images
    | ok k =>
      obtain ⟨hstate, hmakes⟩ := draw_makes ⟨ratio, true⟩ s images k
      have hstep := drawn_shown ⟨ratio, true⟩ hs hx
      rw [← hmakes.run, ← hstate] at hstep
      have hrest := ih hstep htail (draw ⟨ratio, true⟩ s images k).2.1
      rw [runSteps, stateAfter, ← hstate]
      simp only [Effect.made_append, Pen.run_append]
      exact hrest

end Paint

namespace Fragment

/-- A replay that has run so many steps: its drawing state, and what it has done. -/
def replayTo (ratio : Float) (xs : List Step) (images : ImageCache) : PaintState × List Effect :=
  (Paint.stateAfter ratio PaintState.initial xs,
    Effect.calls PaintState.initial.styleCalls ++ (Paint.runSteps ratio xs PaintState.initial images).2)

variable {ratio : Float} {f : Fragment} {xs pre post : List Step} {k : Command} {c : Cursor}
  {s : PaintState} {cs : List CanvasCall}

theorem replay_eq_replayTo (ratio : Float) (f : Fragment) (images : ImageCache) :
    (f.replay ratio images).2 = (replayTo ratio f.replayed images).2 := by
  rw [replay_eq_runSteps]
  rfl

theorem replayTo_extends (ratio : Float) (xs ys : List Step) (images : ImageCache) :
    ∃ rest, (replayTo ratio (xs ++ ys) images).2 = (replayTo ratio xs images).2 ++ rest := by
  rw [replayTo, replayTo, Paint.runSteps_append]
  exact ⟨_, (List.append_assoc _ _ _).symm⟩

theorem replayTo_execute (xs : List Step) (c : Cursor) (images : ImageCache)
    (h : Paint.execute ⟨ratio, true⟩ (replayTo ratio xs images).1 k = some (s, cs)) :
    replayTo ratio (xs ++ [(.ok k, c)]) images =
      (s, (replayTo ratio xs images).2 ++ Effect.calls cs) := by
  rw [replayTo] at h ⊢
  rw [Paint.stateAfter_append, Paint.runSteps_append, Paint.stateAfter, Paint.stateAfter,
    Paint.runSteps, Paint.drawn_of_execute h, Paint.draw_of_execute h]
  simp only [Paint.runSteps, List.append_nil, List.append_assoc, replayTo]

theorem replayTo_shown (hxs : ∀ x ∈ xs, Step.finds Command.endsReplay x = false) (images : ImageCache)
    (pen : Pen) :
    (replayTo ratio xs images).1.ShownBy
      (pen.run (Effect.made (replayTo ratio xs images).2)).style := by
  have hstart : PaintState.initial.ShownBy (pen.run PaintState.initial.styleCalls).style := by
    constructor <;> rfl
  rw [replayTo, Effect.made_append, Effect.made_calls, Pen.run_append]
  exact Paint.runSteps_shown hstart hxs images

/-- What a replay draws, it draws under the style of its drawing state. -/
theorem replay_shown (hreplayed : f.replayed = pre ++ (.ok k, c) :: post) (images : ImageCache)
    (h : Paint.execute ⟨ratio, true⟩ (replayTo ratio pre images).1 k = some (s, cs)) :
    replayTo ratio (pre ++ [(.ok k, c)]) images =
        (s, (replayTo ratio pre images).2 ++ Effect.calls cs) ∧
      (∃ rest, (f.replay ratio images).2 =
        (replayTo ratio pre images).2 ++ Effect.calls cs ++ rest) ∧
      ∀ pen : Pen, ∀ x ∈ (pen.run (Effect.made (replayTo ratio pre images).2)).drawings cs,
        (replayTo ratio pre images).1.ShownBy x.1 ∧ (replayTo ratio pre images).1.Fills x.1 x.2 := by
  have hstep := replayTo_execute pre c images h
  have hpre : ∀ x ∈ pre, Step.finds Command.endsReplay x = false := by
    intro x hx
    have hmem : x ∈ f.replayed := by
      rw [hreplayed]
      exact List.mem_append_left _ hx
    exact Step.not_finds_of_before (fun _ hk => hk) x hmem
  refine ⟨hstep, ?_, fun pen => Paint.execute_drawn (replayTo_shown hpre images pen) h⟩
  obtain ⟨rest, hrest⟩ := replayTo_extends ratio (pre ++ [(.ok k, c)]) post images
  rw [hstep] at hrest
  rw [replay_eq_replayTo, hreplayed, List.append_cons]
  exact ⟨rest, hrest⟩

end Fragment

namespace Document

variable (host : WidgetHost)

theorem perform_of_execute {p : LivePass} {d : Document} {k : Command} {s : PaintState}
    {cs : List CanvasCall} (h : Paint.execute ⟨d.ratio, p.painting⟩ p.paint k = some (s, cs))
    (source : String) (position : Nat) :
    d.perform host source position p k = (⟨d, Effect.calls cs⟩, some { p with paint := s }) := by
  have hlive : d.drawLive p k = (⟨d, Effect.calls cs⟩, some { p with paint := s }) := by
    rw [drawLive, Paint.draw_of_execute h]
  cases k with
  | reset | band | update | image | grid | page | editor => cases h
  | _ => exact hlive

variable {f : Fragment} {pre post : List Step} {k : Command} {c : Cursor}

theorem live_shown (hdecoded : f.decoded = pre ++ (.ok k, c) :: post) (d : Document) :
    ∃ o p, liveTo host f pre d = (o, some p) ∧
      ∀ s cs, Paint.execute ⟨d.ratio, p.painting⟩ p.paint k = some (s, cs) →
        liveTo host f (pre ++ [(.ok k, c)]) d =
            (⟨o.document, o.effects ++ Effect.calls cs⟩, some { p with paint := s }) ∧
          (∃ rest, (d.live host f).effects = o.effects ++ Effect.calls cs ++ rest) ∧
          ∀ pen : Pen, ∀ x ∈ (pen.run (Effect.made o.effects)).drawings cs,
            p.paint.ShownBy x.1 ∧ p.paint.Fills x.1 x.2 := by
  obtain ⟨o, p, ho, htracks⟩ := liveTo_tracks host (Step.not_finds_of_through hdecoded) d
  refine ⟨o, p, ho, ?_⟩
  intro s cs h
  have hratio : o.document.ratio = d.ratio := by
    have hscale := liveTo_scale host f pre d
    rw [ho] at hscale
    exact congrArg Scale.ratio hscale
  have hexecute := h
  rw [← hratio] at hexecute
  have hstep : liveTo host f (pre ++ [(.ok k, c)]) d =
      (⟨o.document, o.effects ++ Effect.calls cs⟩, some { p with paint := s }) := by
    have hone := liveTo_append host ho [(.ok k, c)]
    rw [runSteps_go (perform_of_execute host hexecute f.source c.offset)] at hone
    simp only [runSteps, quiet, List.append_nil] at hone
    exact hone
  refine ⟨hstep, ?_, ?_⟩
  · rw [List.append_cons] at hdecoded
    exact live_extends host hdecoded hstep
  · intro pen
    exact Paint.execute_drawn (.of_tracks (htracks pen).state (htracks pen).style) h

theorem reset_bracketed (d : Document) : Bracketed (Effect.made d.reset.effects) := by
  have hdropped : Effect.made (.dropLoads :: Effect.calls d.clearPage) = d.clearPage :=
    Effect.made_calls d.clearPage
  rw [reset_eq, Effect.made_append, Effect.made_append, hideMenu_made, Effect.made_widgets, hdropped]
  exact d.clearPage_bracketed

/-- Every operation takes back the styles it saves, and only these. -/
theorem operation_bracketed (op : DocumentOperation) (d : Document) :
    Bracketed (Effect.made (op.run host d).effects) := by
  cases hop : op.resets with
  | false => exact (operation_rendered host d hop).bracketed
  | true =>
    cases op with
    | reset => exact d.reset_bracketed
    | _ => cases hop

/-- The canvas has the style of the drawing state wherever a pass draws, and styles are saved and taken back in
pairs. -/
theorem style_follows_state (host : WidgetHost) (d : Document) :
    (∀ options, Bracketed (Effect.made (create options).effects)) ∧
    (∀ op : DocumentOperation, Bracketed (Effect.made (op.run host d).effects) ∧
      ∀ pen : Pen, (pen.run (Effect.made (op.run host d).effects)).saved = pen.saved) ∧
    (∀ (f : Fragment) (pre post : List Step) (k : Command) (c : Cursor),
      f.decoded = pre ++ (.ok k, c) :: post →
      ∃ o p, liveTo host f pre d = (o, some p) ∧
        ∀ s cs, Paint.execute ⟨d.ratio, p.painting⟩ p.paint k = some (s, cs) →
          liveTo host f (pre ++ [(.ok k, c)]) d =
              (⟨o.document, o.effects ++ Effect.calls cs⟩, some { p with paint := s }) ∧
            (∃ rest, (d.live host f).effects = o.effects ++ Effect.calls cs ++ rest) ∧
            ∀ pen : Pen, ∀ x ∈ (pen.run (Effect.made o.effects)).drawings cs,
              p.paint.ShownBy x.1 ∧ p.paint.Fills x.1 x.2) ∧
    ∀ (ratio : Float) (f : Fragment) (images : ImageCache) (pre post : List Step) (k : Command)
      (c : Cursor) (s : PaintState) (cs : List CanvasCall),
      f.replayed = pre ++ (.ok k, c) :: post →
      Paint.execute ⟨ratio, true⟩ (Fragment.replayTo ratio pre images).1 k = some (s, cs) →
      Fragment.replayTo ratio (pre ++ [(.ok k, c)]) images =
          (s, (Fragment.replayTo ratio pre images).2 ++ Effect.calls cs) ∧
        (∃ rest, (f.replay ratio images).2 =
          (Fragment.replayTo ratio pre images).2 ++ Effect.calls cs ++ rest) ∧
        ∀ pen : Pen, ∀ x ∈ (pen.run (Effect.made (Fragment.replayTo ratio pre images).2)).drawings cs,
          (Fragment.replayTo ratio pre images).1.ShownBy x.1 ∧
            (Fragment.replayTo ratio pre images).1.Fills x.1 x.2 := by
  refine ⟨fun options => (resizeCanvas_renders _).bracketed, fun op => ?_, ?_, ?_⟩
  · have hbracketed := operation_bracketed host op d
    exact ⟨hbracketed, hbracketed.balanced.saved⟩
  · intro f pre post k c hdecoded
    exact live_shown host hdecoded d
  · intro ratio f images pre post k c s cs hreplayed h
    exact Fragment.replay_shown hreplayed images h

def framedBox : Fragment :=
  ⟨"s0000FF;Z;eb,0,0,9,9;RF0,0,5,5;", 0⟩

theorem decoded_framedBox :
    framedBox.decoded =
      [(.ok (.strokeColor ⟨0, 0, 255, 255⟩), ⟨8, some ';', "Z;eb,0,0,9,9;RF0,0,5,5;".toList⟩),
        (.ok (.reset true), ⟨10, some ';', "eb,0,0,9,9;RF0,0,5,5;".toList⟩),
        (.ok (.editor (.debugBox ⟨0, 0, 9, 9⟩)), ⟨21, some ';', "RF0,0,5,5;".toList⟩)] ++
      (.ok (.rect (.paint .fill) ⟨0, 0, 5, 5⟩), ⟨31, some ';', []⟩) :: [] :=
  Fragment.decoded_eq (.next rfl (.next rfl (.next rfl (.next rfl (.done rfl))))) rfl

theorem style_follows_state_framedBox :
    let host : WidgetHost := ⟨fun _ => none, fun _ _ => .ok (), fun _ box => box⟩
    let d := (create DocumentOptions.standard).document
    ∃ pre post c o p, framedBox.decoded = pre ++ (.ok (.rect (.paint .fill) ⟨0, 0, 5, 5⟩), c) :: post ∧
      liveTo host framedBox pre d = (o, some p) ∧
      ∀ pen : Pen, ∀ x ∈ (pen.run (Effect.made o.effects)).drawings
          [.fillColor Color.white, .fillRect ⟨0, 0, 5, 5⟩],
        x.1.stroke = ⟨0, 0, 255, 255⟩ ∧ x.1.transform = Affine.identity := by
  intro host d
  obtain ⟨-, -, hlive, -⟩ := style_follows_state host d
  obtain ⟨o, p, ho, hshown⟩ := hlive framedBox _ _ _ _ decoded_framedBox
  have hp : p = ⟨{ PaintState.initial with stroke := ⟨0, 0, 255, 255⟩ }, true⟩ :=
    (Option.some.inj (congrArg Prod.snd ho)).symm
  subst hp
  obtain ⟨-, -, hdrawn⟩ := hshown _ _ rfl
  refine ⟨_, _, _, o, _, decoded_framedBox, ho, ?_⟩
  intro pen x hx
  obtain ⟨hstyle, -⟩ := hdrawn pen x hx
  exact ⟨hstyle.stroke, hstyle.transform⟩

end Document

end BandCanvas
