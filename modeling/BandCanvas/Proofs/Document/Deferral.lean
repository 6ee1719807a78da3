import BandCanvas.Proofs.Document.Rendering
import BandCanvas.Proofs.Paint.Deferral

namespace BandCanvas

namespace Command

def paintsBand : Command → Bool
  | .band h => h.paint
  | _ => false

def paintsPage : Command → Bool
  | .reset hard => hard
  | .update => true
  | _ => false

end Command

variable {k : Command}

namespace Paint

/-- What is not painted sets the style, and does nothing else to the canvas. -/
theorem draw_deferred (ratio : Float) (s : PaintState) (images : ImageCache) (k : Command) :
    ∀ c ∈ Effect.made (draw ⟨ratio, false⟩ s images k).2.2, c.setsStyle = true := by
  cases hexecute : execute ⟨ratio, true⟩ s k with
  | some x =>
    have hdeferred := execute_deferred ratio s k
    rw [hexecute] at hdeferred
    rw [draw_of_execute hdeferred, Effect.made_calls]
    exact fun c hc => (List.mem_filter.1 hc).2
  | none =>
    cases k with
    | image i =>
      have hnone : Effect.made (images.draw false i).2 = [] := by
        cases hpath : i.path.isEmpty with
        | true => rw [ImageCache.draw_unnamed hpath]; rfl
        | false =>
          rw [ImageCache.draw_made hpath]
          cases images.ready? i.path <;> rfl
      show ∀ c ∈ Effect.made (images.draw false i).2, c.setsStyle = true
      rw [hnone]
      exact List.forall_mem_nil _
    | editor e => cases e <;> exact List.forall_mem_nil _
    | reset | band | update | grid | page => exact List.forall_mem_nil _
    | rect a => cases a <;> cases hexecute
    | _ => cases hexecute

end Paint

namespace Document

variable {host : WidgetHost} {source : String} {p p' : LivePass} {o : Outcome}

theorem styleCalls_setsStyle (s : PaintState) : ∀ c ∈ s.styleCalls, c.setsStyle = true := by
  simp [PaintState.styleCalls, CanvasCall.setsStyle]

theorem updateMenu_made (y : Float) (d : Document) : Effect.made (d.updateMenu y).effects = [] := by
  rw [updateMenu]
  split
  · split
    · exact d.hideMenu_made
    · split <;> rfl
  · exact d.hideMenu_made

theorem prepareEditor_made (source : String) (position : Nat) (box : DeviceRect) (d : Document) :
    Effect.made (d.prepareEditor source position box).effects = [] := by
  show Effect.made (_ ++ _) = []
  rw [Effect.made_append, updateMenu_made, List.append_nil]
  exact Effect.made_widgets _

/-- Where a band is not painted, a command sets the style at most, unless it begins a painted band or paints the
page. -/
theorem perform_deferred (host : WidgetHost) (source : String) (position : Nat) (d : Document)
    (hp : p.painting = false) (hband : k.paintsBand = false) (hpage : k.paintsPage = false) :
    ∀ c ∈ Effect.made (d.perform host source position p k).1.effects, c.setsStyle = true := by
  have hdraw : ∀ c ∈ Effect.made (d.drawLive p k).1.effects, c.setsStyle = true := by
    rw [drawLive, hp]
    exact Paint.draw_deferred d.ratio p.paint d.images k
  cases k with
  | reset hard =>
    obtain rfl : hard = false := hpage
    show ∀ c ∈ Effect.made (Effect.calls _ ++ d.dropBands.effects), c.setsStyle = true
    rw [Effect.made_append, Effect.made_calls, dropBands_made, List.append_nil]
    exact styleCalls_setsStyle _
  | band h =>
    have hpaint : h.paint = false := hband
    simp only [perform, defineBand, hpaint]
    exact List.forall_mem_nil _
  | update => cases hpage
  | grid major minor => exact List.forall_mem_nil _
  | page number count =>
    simp only [perform, Effect.made_ofEvent?]
    exact List.forall_mem_nil _
  | editor e =>
    cases e with
    | prepare box =>
      simp only [perform, prepareEditor_made]
      exact List.forall_mem_nil _
    | debugBox r => exact hdraw
    | _ =>
      simp only [perform, edit_made]
      exact List.forall_mem_nil _
  | _ => exact hdraw

theorem perform_painting {position : Nat} {d : Document} (hp : p.painting = false)
    (hband : k.paintsBand = false) (ho : d.perform host source position p k = (o, some p')) :
    p'.painting = false := by
  cases k with
  | reset hard => cases hard <;> cases ho <;> exact hp
  | band h =>
    cases ho
    exact hband
  | update => cases ho
  | editor e =>
    cases e with
    | prepare box => cases ho
    | _ => cases ho; exact hp
  | _ => cases ho; exact hp

theorem runSteps_painting {xs : List Step} {d : Document} (hp : p.painting = false)
    (hxs : ∀ x ∈ xs, Step.finds Command.paintsBand x = false)
    (hrun : runSteps host source xs p d = (o, some p')) : p'.painting = false := by
  induction xs generalizing p d o with
  | nil =>
    cases hrun
    exact hp
  | cons x xs ih =>
    obtain ⟨hx, htail⟩ := List.forall_mem_cons.1 hxs
    obtain ⟨r, c⟩ := x
    cases r with
    | error e => exact ih hp htail hrun
    | ok k =>
      rcases perform_cases host source c.offset p d k with ⟨_, o₁, ho⟩ | ⟨_, o₁, p₁, ho⟩
      · rw [runSteps_stop ho] at hrun
        cases hrun
      · rw [runSteps_go ho] at hrun
        cases hrest : runSteps host source xs p₁ o₁.document with
        | mk o₂ p₂ =>
        rw [hrest] at hrun
        cases hrun
        exact ih (perform_painting hp hx ho) htail hrest

theorem live_step {f : Fragment} {done after : List Step} {x : Step}
    (hdecoded : f.decoded = done ++ x :: after) (host : WidgetHost) (d : Document) :
    ∃ o p rest, liveTo host f done d = (o, some p) ∧
      (liveTo host f (done ++ [x]) d).1.effects =
        o.effects ++ (runSteps host f.source [x] p o.document).1.effects ∧
      (d.live host f).effects = (liveTo host f (done ++ [x]) d).1.effects ++ rest := by
  have hdone : ∀ y ∈ done, Step.finds Command.endsPass y = false := Step.not_finds_of_through hdecoded
  obtain ⟨o, p, ho, -⟩ := liveTo_tracks host hdone d
  have hstep : (liveTo host f (done ++ [x]) d).1.effects =
      o.effects ++ (runSteps host f.source [x] p o.document).1.effects := by
    rw [liveTo_append host ho]
  cases hx : Step.finds Command.endsPass x with
  | true =>
    obtain rfl : after = [] := Step.through_last hdecoded hx
    refine ⟨o, p, [], ho, hstep, ?_⟩
    rw [live_eq_liveTo, hdecoded, List.append_nil]
  | false =>
    have hgo : ∀ y ∈ done ++ [x], Step.finds Command.endsPass y = false :=
      List.forall_mem_append.2 ⟨hdone, List.forall_mem_singleton.2 hx⟩
    obtain ⟨o₁, p₁, ho₁, -⟩ := liveTo_tracks host hgo d
    have hsplit : f.decoded = (done ++ [x]) ++ after := by
      rw [hdecoded, List.append_assoc, List.singleton_append]
    obtain ⟨rest, hrest⟩ := live_extends host hsplit ho₁
    refine ⟨o, p, rest, ho, hstep, ?_⟩
    rw [hrest, ho₁]

/-- The calls of a live pass for the step `x` behind the steps `done` change no pixels. -/
def KeepsPixels (host : WidgetHost) (f : Fragment) (d : Document) (done : List Step) (x : Step) : Prop :=
  ∃ during rest,
    (liveTo host f (done ++ [x]) d).1.effects = (liveTo host f done d).1.effects ++ during ∧
    (d.live host f).effects = (liveTo host f (done ++ [x]) d).1.effects ++ rest ∧
    (∀ c ∈ Effect.made during, c.changesPixels = false) ∧
    ∀ r : Raster, ((Effect.made during).foldl Raster.apply r).pixels = r.pixels

variable {f : Fragment} {done after : List Step} {x : Step} {d : Document}

theorem keepsPixels_of_setsStyle (hdecoded : f.decoded = done ++ x :: after)
    (ho : liveTo host f done d = (o, some p))
    (hcalls : ∀ c ∈ Effect.made (runSteps host f.source [x] p o.document).1.effects,
      c.setsStyle = true) :
    KeepsPixels host f d done x := by
  obtain ⟨o', p', rest, ho', hstep, hrest⟩ := live_step hdecoded host d
  rw [ho] at ho'
  cases ho'
  have hkeep : ∀ c ∈ Effect.made (runSteps host f.source [x] p o.document).1.effects,
      c.changesPixels = false :=
    fun c hc => CanvasCall.changesPixels_of_setsStyle (hcalls c hc)
  refine ⟨_, rest, ?_, hrest, hkeep, Raster.foldl_pixels hkeep⟩
  rw [hstep, ho]

theorem runSteps_single (host : WidgetHost) (source : String) (k : Command) (c : Cursor) (p : LivePass)
    (d : Document) :
    (runSteps host source [(.ok k, c)] p d).1.effects =
      (d.perform host source c.offset p k).1.effects := by
  rcases perform_cases host source c.offset p d k with ⟨_, o, ho⟩ | ⟨_, o, p', ho⟩
  · rw [runSteps_stop ho, ho]
  · rw [runSteps_go ho, ho]
    exact List.append_nil _

theorem keepsPixels_of_deferred (hdecoded : f.decoded = done ++ x :: after)
    (ho : liveTo host f done d = (o, some p)) (hp : p.painting = false)
    (hband : Step.finds Command.paintsBand x = false) (hpage : Step.finds Command.paintsPage x = false) :
    KeepsPixels host f d done x := by
  apply keepsPixels_of_setsStyle hdecoded ho
  obtain ⟨r, c⟩ := x
  cases r with
  | error e => exact List.forall_mem_nil _
  | ok k =>
    rw [runSteps_single]
    exact perform_deferred host f.source c.offset o.document hp hband hpage

/-- Commands that are deferred leave the drawing state that painting leaves, and of the calls those that set the
style. -/
theorem deferring_keeps_style (host : WidgetHost) :
    (∀ (ratio : Float) (ks : List Command) (s : PaintState),
      let painted := Paint.executeAll ⟨ratio, true⟩ ks s
      let deferred := Paint.executeAll ⟨ratio, false⟩ ks s
      deferred.1 = painted.1 ∧ deferred.2.1 = painted.2.1 ∧
        deferred.2.2 = painted.2.2.filter CanvasCall.setsStyle) ∧
    ∀ (d : Document) (f : Fragment) (pre mid post : List Step) (h : BandHeader) (c : Cursor),
      f.decoded = pre ++ (.ok (.band h), c) :: (mid ++ post) → h.paint = false →
      (∀ x ∈ mid, Step.finds Command.paintsBand x = false) →
      ∀ before x after, (.ok (.band h), c) :: mid = before ++ x :: after →
        Step.finds Command.paintsPage x = false → KeepsPixels host f d (pre ++ before) x := by
  refine ⟨fun ratio ks s => ?_, fun d f pre mid post h c hdecoded hpaint hmid before x after hsplit
    hpage => ?_⟩
  · rw [Paint.executeAll_deferred]
    exact ⟨rfl, rfl, rfl⟩
  have hpre : ∀ y ∈ pre, Step.finds Command.endsPass y = false := Step.not_finds_of_through hdecoded
  obtain ⟨o, p, ho, -⟩ := liveTo_tracks host hpre d
  cases before with
  | nil =>
    -- the pass may still be painting when it comes to the band
    obtain ⟨rfl, rfl⟩ := List.cons.inj hsplit
    rw [List.append_nil]
    apply keepsPixels_of_setsStyle hdecoded ho
    rw [runSteps_single]
    simp only [perform, defineBand, hpaint]
    exact List.forall_mem_nil _
  | cons y between =>
    obtain ⟨rfl, htail⟩ := List.cons.inj hsplit
    obtain rfl : mid = between ++ x :: after := htail
    have hfollows : f.decoded = (pre ++ (.ok (.band h), c) :: between) ++ x :: (after ++ post) := by
      rw [hdecoded, List.append_assoc, List.append_assoc, List.cons_append, List.cons_append]
    obtain ⟨hbetween, hrest⟩ := List.forall_mem_append.1 hmid
    have hgo : ∀ y ∈ between, Step.finds Command.endsPass y = false := fun y hy =>
      Step.not_finds_of_through hfollows y (List.mem_append_right pre (List.mem_cons_of_mem _ hy))
    obtain ⟨o₁, p₁, hrun⟩ := runSteps_some host hgo f.source ⟨p.paint, false⟩
      (o.document.defineBand f.source c.offset h).document
    have hto : liveTo host f (pre ++ (.ok (.band h), c) :: between) d =
        (⟨o₁.document, o.effects ++ ((o.document.defineBand f.source c.offset h).effects ++ o₁.effects)⟩,
          some p₁) := by
      rw [liveTo_append host ho]
      simp only [runSteps, perform, hpaint, hrun]
    have hdeferred : p₁.painting = false := runSteps_painting rfl hbetween hrun
    exact keepsPixels_of_deferred hfollows hto hdeferred (hrest x List.mem_cons_self) hpage

def deferredBand : Fragment :=
  ⟨"b1,A,1,f,10,0,0;E0,0,5,5;U", 0⟩

theorem decoded_deferredBand :
    deferredBand.decoded =
      [] ++ (.ok (.band ⟨false, "A", 1, false, 10, 0, 0⟩), ⟨16, some ';', "E0,0,5,5;U".toList⟩) ::
      ([(.ok (.ellipse .fill ⟨0, 0, 5, 5⟩), ⟨25, some ';', ['U']⟩)] ++
        [(.ok .update, ⟨26, some 'U', []⟩)]) :=
  Fragment.decoded_eq (.next rfl (.next rfl (.next rfl (.done rfl)))) rfl

theorem keepsPixels_deferredBand :
    KeepsPixels ⟨fun _ => none, fun _ _ => .ok (), fun _ box => box⟩ deferredBand
      (create DocumentOptions.standard).document
      [(.ok (.band ⟨false, "A", 1, false, 10, 0, 0⟩), ⟨16, some ';', "E0,0,5,5;U".toList⟩)]
      (.ok (.ellipse .fill ⟨0, 0, 5, 5⟩), ⟨25, some ';', ['U']⟩) :=
  (deferring_keeps_style _).2 _ deferredBand [] _ _ _ _ decoded_deferredBand rfl (by decide)
    [(.ok (.band ⟨false, "A", 1, false, 10, 0, 0⟩), ⟨16, some ';', "E0,0,5,5;U".toList⟩)] _ [] rfl rfl

end Document

end BandCanvas
