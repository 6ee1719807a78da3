import BandCanvas.Document.Operation
import BandCanvas.Proofs.Document.Frame
import BandCanvas.Proofs.Paint.LiveStyle

namespace BandCanvas

namespace LiveStyle

def run (ratio : Float) (b : LiveStyle) : List Step → LiveStyle
  | [] => b
  | (.ok k, _) :: xs => run ratio (b.after ratio k) xs
  | (.error _, _) :: xs => run ratio b xs

/-- A live pass and its canvas have the style that is tracked. -/
structure Tracks (b : LiveStyle) (p : LivePass) (pen : Pen) : Prop where
  state : p.paint.plain = b.state
  style : pen.style = b.style

end LiveStyle

namespace Document

variable (host : WidgetHost)

theorem hideMenu_made (d : Document) : Effect.made d.hideMenu.effects = [] := by
  rw [hideMenu]
  split <;> rfl

theorem dropBands_made (d : Document) : Effect.made d.dropBands.effects = [] :=
  d.hideMenu_made

theorem adjustScroll_made (d : Document) : Effect.made (d.adjustScroll host).effects = [] := by
  rw [adjustScroll]
  split
  · simp only
    split <;> rfl
  · rfl

theorem edit_made (e : EditorCommand) (d : Document) : Effect.made (d.edit host e).effects = [] := by
  cases e with
  | attach json => simp [edit, attachEditor, withOverlay]
  | start field => simp [edit, Outcome.andThen, withOverlay, adjustScroll_made]
  | configure | update | finish | hint => exact Effect.made_widgets _
  | prepare | debugBox | other => rfl

theorem gridLines_stacks (d : Document) (onMajor : Bool) :
    ∀ c ∈ d.gridLines onMajor, c.stacks = false := by
  intro c hc
  simp only [gridLines, List.mem_append, List.mem_cons, List.mem_flatMap, List.not_mem_nil,
    or_false] at hc
  rcases hc with (((rfl | rfl | rfl) | ⟨x, _, rfl | rfl⟩) | ⟨y, _, rfl | rfl⟩) | rfl <;> rfl

theorem grid_balanced (d : Document) : Balanced d.grid := by
  rw [grid]
  split
  · exact (Balanced.of_forall (d.gridLines_stacks false)).append
      (Balanced.of_forall (d.gridLines_stacks true))
  · exact Balanced.nil

theorem run_clearPage (d : Document) (pen : Pen) : pen.run d.clearPage = pen := by
  have hfill : Balanced [.transform Affine.identity, .fillColor d.background,
      .fillRect ⟨0, 0, d.canvasWidth, d.canvasHeight⟩] :=
    Balanced.of_forall (by simp [CanvasCall.stacks])
  exact (hfill.append d.grid_balanced).run_framed pen

variable {source : String} {position : Nat} {p p' : LivePass} {d : Document} {k : Command}
  {o : Outcome}

theorem drawLive_drawn (p : LivePass) (k : Command) (d : Document) :
    ∃ o, d.drawLive p k =
        (o, some { p with paint := (Paint.drawn ⟨d.ratio, p.painting⟩ p.paint k).1 }) ∧
      Paint.Makes o.effects (Paint.drawn ⟨d.ratio, p.painting⟩ p.paint k).2 := by
  obtain ⟨hpaint, hmakes⟩ := Paint.draw_makes ⟨d.ratio, p.painting⟩ p.paint d.images k
  rw [← hpaint]
  exact ⟨_, rfl, hmakes⟩

theorem perform_drawn (source : String) (position : Nat) (p : LivePass) (d : Document)
    (hk : k.endsReplay = false) :
    ∃ o, d.perform host source position p k =
        (o, some { p with paint := (Paint.drawn ⟨d.ratio, p.painting⟩ p.paint k).1 }) ∧
      Paint.Makes o.effects (Paint.drawn ⟨d.ratio, p.painting⟩ p.paint k).2 := by
  have hlive := drawLive_drawn p k d
  cases k with
  | reset | band | update => cases hk
  | grid major minor => exact ⟨_, rfl, Paint.Makes.of_made rfl⟩
  | page number count => exact ⟨_, rfl, Paint.Makes.of_made (Effect.made_ofEvent? _)⟩
  | editor e =>
    cases e with
    | prepare => cases hk
    | debugBox r => exact hlive
    | _ => exact ⟨_, rfl, Paint.Makes.of_made (edit_made host _ d)⟩
  | _ => exact hlive

/-- One command of a live pass takes the style along. -/
theorem perform_tracks {b : LiveStyle} {pen : Pen} (h : b.Tracks p pen)
    (ho : d.perform host source position p k = (o, some p')) :
    (b.after d.ratio k).Tracks p' (pen.run (Effect.made o.effects)) := by
  cases hk : k.endsReplay with
  | false =>
    obtain ⟨o', ho', hmakes⟩ := perform_drawn host source position p d hk
    rw [ho'] at ho
    cases ho
    obtain ⟨hstate, hstyle⟩ := Paint.drawn_tracks ⟨d.ratio, p.painting⟩ h.state h.style hk
    exact ⟨hstate, (congrArg Pen.style (hmakes.run pen)).trans hstyle⟩
  | true =>
    cases k with
    | reset hard =>
      cases hard with
      | true =>
        cases ho
        have hcalls :
            pen.run (Effect.made (Effect.calls d.clearPage ++ d.dropBands.effects)) = pen := by
          rw [Effect.made_append, Effect.made_calls, dropBands_made, List.append_nil, run_clearPage]
        exact ⟨h.state, (congrArg Pen.style hcalls).trans h.style⟩
      | false =>
        cases ho
        have hcalls :
            Effect.made (Effect.calls PaintState.initial.styleCalls ++ d.dropBands.effects) =
              PaintState.initial.styleCalls := by
          rw [Effect.made_append, Effect.made_calls, dropBands_made, List.append_nil]
        refine ⟨rfl, ?_⟩
        show (pen.run (Effect.made (_ ++ _))).style = _
        rw [hcalls]
        rfl
    | band header =>
      cases ho
      refine ⟨h.state, ?_⟩
      simp only [defineBand]
      split <;> exact h.style
    | update => cases ho
    | editor e =>
      cases e with
      | prepare box => cases ho
      | _ => cases hk
    | _ => cases hk

theorem runSteps_scale (xs : List Step) (p : LivePass) (d : Document) :
    (runSteps host source xs p d).1.document.scale = d.scale := by
  apply runSteps_invariant (P := fun d' => d'.scale = d.scale) _ p rfl
  intro k c p d' _ h
  exact (perform_page host source c.offset p d' k).2.trans h

theorem runSteps_tracks {xs : List Step} {b : LiveStyle} {pen : Pen} (h : b.Tracks p pen)
    (hrun : runSteps host source xs p d = (o, some p')) :
    (b.run d.ratio xs).Tracks p' (pen.run (Effect.made o.effects)) := by
  induction xs generalizing p d o b pen with
  | nil =>
    cases hrun
    exact h
  | cons x xs ih =>
    obtain ⟨r, c⟩ := x
    cases r with
    | error e => exact ih h hrun
    | ok k =>
      have hpage := (perform_page host source c.offset p d k).2
      rcases perform_cases host source c.offset p d k with ⟨_, o₁, ho⟩ | ⟨_, o₁, p₁, ho⟩
      · rw [runSteps_stop ho] at hrun
        cases hrun
      · rw [ho] at hpage
        have hratio : o₁.document.ratio = d.ratio := congrArg Scale.ratio hpage
        rw [runSteps_go ho] at hrun
        cases hrest : runSteps host source xs p₁ o₁.document with
        | mk o₂ p₂ =>
        rw [hrest] at hrun
        cases hrun
        have htail := ih (perform_tracks host h ho) hrest
        rw [hratio] at htail
        rw [Effect.made_append, Pen.run_append]
        exact htail

theorem runSteps_some {xs : List Step} (h : ∀ x ∈ xs, Step.finds Command.endsPass x = false)
    (source : String) (p : LivePass) (d : Document) :
    ∃ o p', runSteps host source xs p d = (o, some p') := by
  induction xs generalizing p d with
  | nil => exact ⟨_, _, rfl⟩
  | cons x xs ih =>
    have hxs : ∀ y ∈ xs, Step.finds Command.endsPass y = false := fun y hy =>
      h y (List.mem_cons_of_mem x hy)
    obtain ⟨r, c⟩ := x
    cases r with
    | error e => exact ih hxs p d
    | ok k =>
      have hk : k.endsPass = false := h _ List.mem_cons_self
      rcases perform_cases host source c.offset p d k with ⟨hends, _⟩ | ⟨_, o₁, p₁, ho⟩
      · rw [hk] at hends
        cases hends
      · obtain ⟨o₂, p₂, hrest⟩ := ih hxs p₁ o₁.document
        rw [runSteps_go ho, hrest]
        exact ⟨_, p₂, rfl⟩

/-- From the same style, a live pass and a replay draw the same up to the next delimiter. -/
theorem runSteps_drawings {xs : List Step} {s t : PaintState} {pen pen' : Pen}
    (hxs : ∀ x ∈ xs, Step.finds Command.endsReplay x = false) (hst : s.plain = t.plain)
    (hpen : pen.style = pen'.style) (source : String) (d : Document) (images : ImageCache) :
    pen.drawings (Effect.made (runSteps host source xs ⟨s, true⟩ d).1.effects) =
      pen'.drawings (Effect.made (Paint.runSteps d.ratio xs t images).2) := by
  induction xs generalizing d s t images pen pen' with
  | nil => rfl
  | cons x xs ih =>
    have htail : ∀ y ∈ xs, Step.finds Command.endsReplay y = false := fun y hy =>
      hxs y (List.mem_cons_of_mem x hy)
    obtain ⟨r, c⟩ := x
    cases r with
    | error e => exact ih htail hst hpen d images
    | ok k =>
      have hk : k.endsReplay = false := hxs _ List.mem_cons_self
      have hpage := (perform_page host source c.offset ⟨s, true⟩ d k).2
      obtain ⟨o, ho, hlive⟩ := perform_drawn host source c.offset ⟨s, true⟩ d hk
      rw [ho] at hpage
      have hratio : o.document.ratio = d.ratio := congrArg Scale.ratio hpage
      obtain ⟨hpaint, hreplay⟩ := Paint.draw_makes ⟨d.ratio, true⟩ t images k
      obtain ⟨hplain, hcalls⟩ := Paint.drawn_congr ⟨d.ratio, true⟩ hst k
      have hbalanced := Paint.drawn_balanced ⟨d.ratio, true⟩ t k
      rw [hcalls] at hlive
      rw [← hpaint] at hplain
      have hstyle : (pen.run (Effect.made o.effects)).style =
          (pen'.run (Effect.made (Paint.draw ⟨d.ratio, true⟩ t images k).2.2)).style := by
        rw [hlive.run, hreplay.run]
        exact hbalanced.style pen pen' hpen
      have hrest := ih htail hplain hstyle o.document (Paint.draw ⟨d.ratio, true⟩ t images k).2.1
      rw [hratio] at hrest
      rw [runSteps_go ho, Paint.runSteps]
      simp only [Effect.made_append, Pen.drawings_append]
      rw [hrest, hlive.drawings, hreplay.drawings, hbalanced.drawings pen pen' hpen]

/-- A live pass that has run so many steps of its stream. -/
def liveTo (host : WidgetHost) (f : Fragment) (xs : List Step) (d : Document) :
    Outcome × Option LivePass :=
  let (o, p) := runSteps host f.source xs LivePass.initial d
  (⟨o.document, Effect.calls PaintState.initial.styleCalls ++ o.effects⟩, p)

theorem live_eq_liveTo (f : Fragment) (d : Document) :
    d.live host f = (liveTo host f f.decoded d).1 :=
  live_eq_runSteps host f d

theorem liveTo_append {f : Fragment} {xs : List Step} (h : liveTo host f xs d = (o, some p))
    (ys : List Step) :
    liveTo host f (xs ++ ys) d =
      let (o', p') := runSteps host f.source ys p o.document
      (⟨o'.document, o.effects ++ o'.effects⟩, p') := by
  cases hrun : runSteps host f.source xs LivePass.initial d with
  | mk o₁ p₁ =>
  simp only [liveTo, hrun, Prod.mk.injEq] at h
  obtain ⟨rfl, rfl⟩ := h
  simp only [liveTo, runSteps_append, hrun, List.append_assoc]

theorem live_extends {f : Fragment} {xs ys : List Step} (hdecoded : f.decoded = xs ++ ys)
    (h : liveTo host f xs d = (o, some p)) : ∃ rest, (d.live host f).effects = o.effects ++ rest := by
  rw [live_eq_liveTo, hdecoded, liveTo_append host h]
  exact ⟨_, rfl⟩

theorem liveTo_scale (f : Fragment) (xs : List Step) (d : Document) :
    (liveTo host f xs d).1.document.scale = d.scale :=
  runSteps_scale host xs LivePass.initial d

theorem liveTo_tracks {f : Fragment} {xs : List Step}
    (h : ∀ x ∈ xs, Step.finds Command.endsPass x = false) (d : Document) :
    ∃ o p, liveTo host f xs d = (o, some p) ∧
      ∀ pen : Pen, (LiveStyle.initial.run d.ratio xs).Tracks p (pen.run (Effect.made o.effects)) := by
  obtain ⟨o, p, hrun⟩ := runSteps_some host h f.source LivePass.initial d
  refine ⟨⟨o.document, Effect.calls PaintState.initial.styleCalls ++ o.effects⟩, p, ?_, fun pen => ?_⟩
  · simp only [liveTo, hrun]
  · have hstart : LiveStyle.initial.Tracks LivePass.initial (pen.run PaintState.initial.styleCalls) :=
      ⟨rfl, rfl⟩
    rw [Effect.made_append, Effect.made_calls, Pen.run_append]
    exact runSteps_tracks host hstart hrun

/-- A live pass paints a band defined behind the steps `pre` just as it is painted again, whatever the pen. -/
structure PaintsAsReplay (host : WidgetHost) (d : Document) (f : Fragment) (pre post : List Step)
    (h : BandHeader) (c : Cursor) : Prop where
  starts : ∃ o p, liveTo host f pre d = (o, some p) ∧ p.paint.plain = PaintState.initial ∧
    ∀ pen : Pen, (pen.run (Effect.made o.effects)).style = PaintState.initial.style
  cleared : (liveTo host f (pre ++ [(.ok (.band h), c)]) d).1.effects =
      (liveTo host f pre d).1.effects ++ [.call (.clearRect ⟨0, h.y, d.canvasWidth, h.height⟩)] ∧
    ∀ pen : Pen, (pen.run (Effect.made (liveTo host f pre d).1.effects)).style.transform =
      Affine.identity
  same : ∃ during rest,
    (liveTo host f (pre ++ (.ok (.band h), c) :: Step.before Command.endsReplay post) d).1.effects =
      (liveTo host f (pre ++ [(.ok (.band h), c)]) d).1.effects ++ during ∧
    (d.live host f).effects =
      (liveTo host f (pre ++ (.ok (.band h), c) :: Step.before Command.endsReplay post) d).1.effects ++
        rest ∧
    ∀ (pen pen' : Pen) (images : ImageCache),
      (pen.run (Effect.made (liveTo host f (pre ++ [(.ok (.band h), c)]) d).1.effects)).drawings
          (Effect.made during) =
        pen'.drawings (Effect.made ((h.band f.source c.offset).fragment.replay
          (d.live host f).document.ratio images).2)

variable {f : Fragment} {pre post : List Step} {h : BandHeader} {c : Cursor}

/-- A live pass clears the rows of a band and draws what belongs to it, in the style that the steps before left.
-/
theorem liveTo_band (hpaint : h.paint = true)
    (hdecoded : f.decoded = pre ++ (.ok (.band h), c) :: post) (d : Document) :
    ∃ o p during rest, liveTo host f pre d = (o, some p) ∧
      (∀ pen : Pen, (LiveStyle.initial.run d.ratio pre).Tracks p (pen.run (Effect.made o.effects))) ∧
      (liveTo host f (pre ++ [(.ok (.band h), c)]) d).1.effects =
        o.effects ++ [.call (.clearRect ⟨0, h.y, d.canvasWidth, h.height⟩)] ∧
      (liveTo host f (pre ++ (.ok (.band h), c) :: Step.before Command.endsReplay post) d).1.effects =
        (liveTo host f (pre ++ [(.ok (.band h), c)]) d).1.effects ++ during ∧
      (d.live host f).effects =
        (liveTo host f (pre ++ (.ok (.band h), c) :: Step.before Command.endsReplay post) d).1.effects ++
          rest ∧
      ∀ (pen pen' : Pen) (images : ImageCache), pen'.style = (LiveStyle.initial.run d.ratio pre).style →
        (pen.run (Effect.made (liveTo host f (pre ++ [(.ok (.band h), c)]) d).1.effects)).drawings
            (Effect.made during) =
          pen'.drawings (Effect.made (Paint.runSteps d.ratio (Step.before Command.endsReplay post)
            (LiveStyle.initial.run d.ratio pre).state images).2) := by
  have hpre : ∀ x ∈ pre, Step.finds Command.endsPass x = false := Step.not_finds_of_through hdecoded
  obtain ⟨o, p, ho, htracks⟩ := liveTo_tracks host hpre d
  have hscale : o.document.scale = d.scale := by
    have h := liveTo_scale host f pre d
    rw [ho] at h
    exact h
  have hband : liveTo host f (pre ++ [(.ok (.band h), c)]) d =
      (⟨(o.document.defineBand f.source c.offset h).document,
        o.effects ++ [.call (.clearRect ⟨0, h.y, d.canvasWidth, h.height⟩)]⟩,
        some ⟨p.paint, true⟩) := by
    rw [liveTo_append host ho]
    simp only [runSteps, perform, defineBand, hpaint, if_true, List.append_nil, canvasWidth, hscale,
      quiet]
  have hgo : ∀ x ∈ Step.before Command.endsReplay post, Step.finds Command.endsPass x = false :=
    Step.not_finds_of_before fun _ => Command.endsReplay_of_endsPass
  obtain ⟨o₁, p₁, hsegment⟩ := runSteps_some host hgo f.source ⟨p.paint, true⟩
    (o.document.defineBand f.source c.offset h).document
  have hto : liveTo host f (pre ++ (.ok (.band h), c) :: Step.before Command.endsReplay post) d =
      (⟨o₁.document, o.effects ++ [.call (.clearRect ⟨0, h.y, d.canvasWidth, h.height⟩)] ++ o₁.effects⟩,
        some p₁) := by
    have h := liveTo_append host hband (Step.before Command.endsReplay post)
    rw [hsegment, List.append_assoc] at h
    exact h
  have hsplit : f.decoded = (pre ++ (.ok (.band h), c) :: Step.before Command.endsReplay post) ++
      post.dropWhile fun x => !Step.finds Command.endsReplay x := by
    rw [hdecoded, List.append_assoc, List.cons_append, Step.before, List.takeWhile_append_dropWhile]
  obtain ⟨rest, hrest⟩ := live_extends host hsplit hto
  refine ⟨o, p, o₁.effects, rest, ho, htracks, ?_, ?_, ?_, fun pen pen' images hpen => ?_⟩
  · rw [hband]
  · rw [hband, hto]
  · rw [hto, hrest]
  · have hstyle : (pen.run (Effect.made (o.effects ++
        [.call (.clearRect ⟨0, h.y, d.canvasWidth, h.height⟩)]))).style = pen'.style := by
      rw [Effect.made_append, Pen.run_append, hpen]
      exact (htracks pen).style
    have hstate : p.paint.plain = (LiveStyle.initial.run d.ratio pre).state.plain := by
      rw [← (htracks pen).state]
      rfl
    have hratio : (o.document.defineBand f.source c.offset h).document.ratio = d.ratio :=
      congrArg Scale.ratio hscale
    have hrun : ∀ x ∈ Step.before Command.endsReplay post, Step.finds Command.endsReplay x = false :=
      Step.not_finds_of_before fun _ hk => hk
    have hdrawn := runSteps_drawings host hrun hstate hstyle f.source
      (o.document.defineBand f.source c.offset h).document images
    rw [hsegment, hratio] at hdrawn
    rw [hband]
    exact hdrawn

/-- A live pass paints a band as a replay does exactly where the commands before it leave the initial style. -/
theorem paintsAsReplay_iff (hpaint : h.paint = true)
    (hdecoded : f.decoded = pre ++ (.ok (.band h), c) :: post) (d : Document) :
    PaintsAsReplay host d f pre post h c ↔ LiveStyle.initial.run d.ratio pre = LiveStyle.initial := by
  obtain ⟨o, p, during, rest, ho, htracks, hclear, hduring, hrest, hsame⟩ :=
    liveTo_band host hpaint hdecoded d
  constructor
  · intro hreplay
    obtain ⟨o', p', ho', hstate, hstyle⟩ := hreplay.starts
    rw [ho] at ho'
    cases ho'
    obtain ⟨htrackedState, htrackedStyle⟩ := htracks Pen.initial
    have hfill : (LiveStyle.initial.run d.ratio pre).fill = PaintState.initial.fill :=
      congrArg Style.fill (htrackedStyle.symm.trans (hstyle Pen.initial))
    exact LiveStyle.ext (htrackedState.symm.trans hstate) hfill
  · intro hinitial
    rw [hinitial] at htracks hsame
    refine ⟨⟨o, p, ho, (htracks Pen.initial).state, fun pen => (htracks pen).style⟩, ⟨?_, ?_⟩,
      during, rest, hduring, hrest, fun pen pen' images => ?_⟩
    · rw [hclear, ho]
    · intro pen
      rw [ho]
      exact congrArg Style.transform (htracks pen).style
    · have hratio : (d.live host f).document.ratio = d.ratio := by
        rw [live_eq_liveTo]
        exact congrArg Scale.ratio (liveTo_scale host f f.decoded d)
      have hsteps : (h.band f.source c.offset).fragment.replayed =
          Step.before Command.endsReplay post :=
        Fragment.replayed_after hdecoded rfl
      have hstart := hsame pen (pen'.run PaintState.initial.styleCalls) images rfl
      rw [hstart, hratio, Fragment.replay_eq_runSteps, hsteps]
      simp only [Effect.made_append, Effect.made_calls, Pen.drawings_append]
      rfl

def plainBand : Fragment :=
  ⟨"sFF0000;Zd;B1,A,1,f,10,0,0;R0,0,5,5;", 0⟩

theorem decoded_plainBand :
    plainBand.decoded =
      [(.ok (.strokeColor Color.pureRed), ⟨8, some ';', "Zd;B1,A,1,f,10,0,0;R0,0,5,5;".toList⟩),
        (.ok (.reset false), ⟨11, some ';', "B1,A,1,f,10,0,0;R0,0,5,5;".toList⟩)] ++
      (.ok (.band ⟨true, "A", 1, false, 10, 0, 0⟩), ⟨27, some ';', "R0,0,5,5;".toList⟩) ::
      [(.ok (.rect (.paint .stroke) ⟨0, 0, 5, 5⟩), ⟨36, some ';', []⟩)] :=
  Fragment.decoded_eq (.next rfl (.next rfl (.next rfl (.next rfl (.done rfl))))) rfl

theorem paintsAsReplay_plainBand :
    PaintsAsReplay ⟨fun _ => none, fun _ _ => .ok (), fun _ box => box⟩
      (create DocumentOptions.standard).document plainBand
      [(.ok (.strokeColor Color.pureRed), ⟨8, some ';', "Zd;B1,A,1,f,10,0,0;R0,0,5,5;".toList⟩),
        (.ok (.reset false), ⟨11, some ';', "B1,A,1,f,10,0,0;R0,0,5,5;".toList⟩)]
      [(.ok (.rect (.paint .stroke) ⟨0, 0, 5, 5⟩), ⟨36, some ';', []⟩)]
      ⟨true, "A", 1, false, 10, 0, 0⟩ ⟨27, some ';', "R0,0,5,5;".toList⟩ :=
  (paintsAsReplay_iff _ rfl decoded_plainBand _).2 rfl

def colouredBand : Fragment :=
  ⟨"sFF0000;B1,A,1,f,10,0,0;R0,0,5,5;", 0⟩

theorem decoded_colouredBand :
    colouredBand.decoded =
      [(.ok (.strokeColor Color.pureRed), ⟨8, some ';', "B1,A,1,f,10,0,0;R0,0,5,5;".toList⟩)] ++
      (.ok (.band ⟨true, "A", 1, false, 10, 0, 0⟩), ⟨24, some ';', "R0,0,5,5;".toList⟩) ::
      [(.ok (.rect (.paint .stroke) ⟨0, 0, 5, 5⟩), ⟨33, some ';', []⟩)] :=
  Fragment.decoded_eq (.next rfl (.next rfl (.next rfl (.done rfl)))) rfl

/-- The frame in the band is red live, and black when the band is painted again. -/
theorem not_paintsAsReplay_colouredBand :
    ∃ pre post h c, colouredBand.decoded = pre ++ (.ok (.band h), c) :: post ∧ h.paint = true ∧
      ¬ PaintsAsReplay ⟨fun _ => none, fun _ _ => .ok (), fun _ box => box⟩
        (create DocumentOptions.standard).document colouredBand pre post h c := by
  refine ⟨_, _, _, _, decoded_colouredBand, rfl, fun hpaints => ?_⟩
  obtain ⟨during, rest, hduring, -, hsame⟩ := hpaints.same
  -- The initial style, the colour and the cleared rows are the seven calls before.
  obtain rfl : [.call (.strokeRect ⟨0, 0, 5, 5⟩)] = during := congrArg (List.drop 7) hduring
  have hreplayed := Fragment.replayed_after decoded_colouredBand rfl
  have hpens := hsame Pen.initial Pen.initial ImageCache.empty
  rw [Fragment.replay_eq_runSteps, BandHeader.band, Band.fragment, hreplayed] at hpens
  have hred : [({ PaintState.initial.style with stroke := Color.pureRed }, .strokeRect ⟨0, 0, 5, 5⟩)] =
      [(PaintState.initial.style, CanvasCall.strokeRect ⟨0, 0, 5, 5⟩)] := hpens
  have hstroke : Color.pureRed = Color.black :=
    congrArg Style.stroke (congrArg Prod.fst (List.cons.inj hred).1)
  exact absurd hstroke (by decide)

end Document

end BandCanvas
