import BandCanvas.Proofs.Asset.LoaderNames
import BandCanvas.Proofs.Document.PictureHistory

namespace BandCanvas

/-- Whether a loader is told of an effect. -/
def Effect.isHeard : Effect → Bool
  | .request _ | .dropLoads => true
  | _ => false

theorem Effect.isHeard_calls {cs : List CanvasCall} : ∀ e ∈ calls cs, e.isHeard = false := by
  intro e he
  obtain ⟨c, _, rfl⟩ := List.mem_map.1 he
  rfl

/-- What a loader is told by the effects of an operation, with what its workers do meanwhile. -/
inductive Hears : List Effect → List LoaderEvent → Prop
  | nil : Hears [] []
  | work {es : List Effect} {events : List LoaderEvent} (s : WorkerStep) :
    Hears es events → Hears es (.work s :: events)
  | request {es : List Effect} {events : List LoaderEvent} (path : String) :
    Hears es events → Hears (.request path :: es) (.request path :: events)
  | drop {es : List Effect} {events : List LoaderEvent} (during : List WorkerStep) :
    Hears es events → Hears (.dropLoads :: es) (.reset during :: events)
  | other {e : Effect} {es : List Effect} {events : List LoaderEvent} :
    e.isHeard = false → Hears es events → Hears (e :: es) events

namespace Hears

variable {es es' : List Effect} {events : List LoaderEvent}

theorem of_forall (h : ∀ e ∈ es, e.isHeard = false) : Hears es [] := by
  induction es with
  | nil => exact .nil
  | cons e es ih =>
    obtain ⟨he, hes⟩ := List.forall_mem_cons.1 h
    exact .other he (ih hes)

theorem append {more : List LoaderEvent} (h : Hears es events) (h' : Hears es' more) :
    Hears (es ++ es') (events ++ more) := by
  induction h with
  | nil => exact h'
  | work s _ ih => exact .work s ih
  | request path _ ih => exact .request path ih
  | drop during _ ih => exact .drop during ih
  | other he _ ih => exact .other he ih

theorem asked (h : Hears es events) (hwanted : .dropLoads ∉ es) (r : LoaderRun) :
    (r.run events).requested = r.requested ++ Effect.asked es ∧
      (r.run events).returned = r.returned := by
  induction h generalizing r with
  | nil => exact ⟨(List.append_nil _).symm, rfl⟩
  | work s _ ih => exact ih hwanted (r.step (.work s))
  | @request es events path _ ih =>
    obtain ⟨hrequested, hreturned⟩ :=
      ih (fun h => hwanted (List.mem_cons_of_mem _ h)) (r.step (.request path))
    have hasked := List.append_cons r.requested path (Effect.asked es)
    exact ⟨hrequested.trans hasked.symm, hreturned⟩
  | drop => exact absurd List.mem_cons_self hwanted
  | @other e es events he _ ih =>
    obtain ⟨hrequested, hreturned⟩ := ih (fun h => hwanted (List.mem_cons_of_mem _ h)) r
    refine ⟨?_, hreturned⟩
    have hnone : Effect.asked (e :: es) = Effect.asked es := by
      cases e with
      | request | dropLoads => cases he
      | _ => rfl
    rw [hnone]
    exact hrequested

theorem dropped (h : Hears (es ++ .dropLoads :: es') events) (hwanted : .dropLoads ∉ es')
    (hasked : Effect.asked es' = []) (r : LoaderRun) :
    (r.run events).requested = [] ∧ (r.run events).returned = [] := by
  generalize hall : es ++ .dropLoads :: es' = all at h
  induction h generalizing es r with
  | nil => cases es <;> cases hall
  | work s _ ih => exact ih (r.step (.work s)) hall
  | request path _ ih =>
    cases es with
    | nil => cases hall
    | cons e es =>
      cases hall
      exact ih (r.step (.request path)) rfl
  | drop during h ih =>
    cases es with
    | nil =>
      cases hall
      have hrest := h.asked hwanted (r.step (.reset during))
      rw [hasked] at hrest
      exact hrest
    | cons e es =>
      cases hall
      exact ih (r.step (.reset during)) rfl
  | other he _ ih =>
    cases es with
    | nil =>
      cases hall
      cases he
    | cons e es =>
      cases hall
      exact ih r rfl

end Hears

namespace DocumentOperation

/-- Whether the finished loads are taken from the loader. -/
def polls : DocumentOperation → Bool
  | .tick .. => true
  | _ => false

theorem loads_of_not_polls {op : DocumentOperation} (h : op.polls = false) : op.loads = [] := by
  cases op with
  | tick => cases h
  | _ => rfl

end DocumentOperation

namespace Document

/-- A document with the loader of its pictures, as the two can come to stand. Workers go on at any time. -/
inductive ServedBy (host : WidgetHost) (options : DocumentOptions) : Document → LoaderRun → Prop
  | create {events : List LoaderEvent} : Hears (create options).effects events →
    ServedBy host options (create options).document (LoaderRun.initial.run events)
  | work {d : Document} {r : LoaderRun} (s : WorkerStep) : ServedBy host options d r →
    ServedBy host options d (r.step (.work s))
  | operate {d : Document} {r : LoaderRun} {op : DocumentOperation} {events : List LoaderEvent} :
    ServedBy host options d r → op.polls = false → Hears (op.run host d).effects events →
    ServedBy host options (op.run host d).document (r.run events)
  | tick {d : Document} {r : LoaderRun} (now : Nat) {events : List LoaderEvent} :
    ServedBy host options d r → Hears (d.tick now r.loader.poll.1).2.effects events →
    ServedBy host options (d.tick now r.loader.poll.1).2.document ((r.step .poll).run events)

/-- The pictures of a document are those that the loader's account tells of. -/
structure Pictured (c : ImageCache) (r : LoaderRun) : Prop where
  fetched : Fetched c r.requested
  loaded : ∀ path e, c.get? path = some e →
    e = ImageEntry.pending.after (ImageLoad.first? path r.returned)

variable {host : WidgetHost} {options : DocumentOptions} {d : Document} {r : LoaderRun}

theorem ServedBy.events (h : ServedBy host options d r) :
    ∃ events, r = LoaderRun.initial.run events := by
  induction h with
  | create => exact ⟨_, rfl⟩
  | work s _ ih =>
    obtain ⟨events, rfl⟩ := ih
    exact ⟨events ++ [LoaderEvent.work s], (LoaderRun.run_append _ events [LoaderEvent.work s]).symm⟩
  | @operate d r op more _ _ _ ih =>
    obtain ⟨events, rfl⟩ := ih
    exact ⟨events ++ more, (LoaderRun.run_append ..).symm⟩
  | @tick d r now more _ _ ih =>
    obtain ⟨events, rfl⟩ := ih
    exact ⟨events ++ .poll :: more, (LoaderRun.run_append _ events (.poll :: more)).symm⟩

theorem ServedBy.accounted (h : ServedBy host options d r) : r.Accounted := by
  obtain ⟨events, rfl⟩ := h.events
  exact LoaderRun.run_accounted LoaderRun.initial_accounted events

theorem Pictured.operation (h : Pictured d.images r) (host : WidgetHost) (op : DocumentOperation)
    {r' : LoaderRun} (hop : op.resets = false)
    (hloads : ∀ l ∈ r.returned ++ op.loads, l.path ∈ r.requested)
    (hrequested : r'.requested = r.requested ++ Effect.asked (op.run host d).effects)
    (hreturned : r'.returned = r.returned ++ op.loads) :
    Pictured (op.run host d).document.images r' := by
  constructor
  · rw [hrequested]
    exact operation_fetched host hop h.fetched
  · intro path e hget
    rw [hreturned]
    cases hold : d.images.get? path with
    | some old =>
      rw [operation_keeps host hop hold] at hget
      cases hget
      rw [h.loaded path old hold, ImageEntry.after_after, ImageLoad.first?_append]
    | none =>
      -- nothing can have been loaded that had not been asked for
      have hunknown : path ∉ r.requested := h.fetched.get?_eq_none_iff.1 hold
      have hnone : ImageLoad.first? path (r.returned ++ op.loads) = none := by
        apply ImageLoad.first?_eq_none
        rintro l hl rfl
        exact hunknown (hloads l hl)
      rw [operation_meets host hop hold] at hget
      rw [hnone]
      split at hget
      · cases hget
        rfl
      · cases hget

theorem create_pictured (options : DocumentOptions) {events : List LoaderEvent}
    (h : Hears (create options).effects events) :
    Pictured (create options).document.images (LoaderRun.initial.run events) := by
  have hrendered := resizeCanvas_renders (create options).document
  obtain ⟨hrequested, -⟩ := h.asked hrendered.wanted LoaderRun.initial
  have hnone : Effect.asked (create options).effects = [] := Effect.asked_calls _
  rw [hnone] at hrequested
  constructor
  · rw [hrequested]
    exact .empty
  · intro path e hget
    cases hget

theorem reset_pictured {events : List LoaderEvent} (h : Hears d.reset.effects events) (r : LoaderRun) :
    Pictured d.reset.document.images (r.run events) := by
  rw [reset_eq] at h ⊢
  have hclear := d.clearPage_renders
  obtain ⟨hrequested, -⟩ := h.dropped hclear.wanted (Effect.asked_calls _) r
  constructor
  · rw [hrequested]
    exact .empty
  · intro path e hget
    cases hget

theorem ServedBy.pictured (h : ServedBy host options d r) : Pictured d.images r := by
  induction h with
  | create h => exact create_pictured options h
  | work s _ ih => exact ⟨ih.fetched, ih.loaded⟩
  | @operate d r op events hserved hpolls hhears ih =>
    cases hop : op.resets with
    | true =>
      cases op with
      | reset => exact reset_pictured hhears r
      | _ => cases hop
    | false =>
      have hloads : op.loads = [] := DocumentOperation.loads_of_not_polls hpolls
      have hrendered := operation_rendered host d hop
      obtain ⟨hrequested, hreturned⟩ := hhears.asked hrendered.wanted r
      apply ih.operation host op hop _ hrequested
      · rw [hloads, List.append_nil]
        exact hreturned
      · rw [hloads, List.append_nil]
        exact fun l hl => hserved.accounted.requested l (List.mem_append_left _ hl)
  | @tick d r now events hserved hhears ih =>
    have hop : (DocumentOperation.tick now r.loader.poll.1).resets = false := rfl
    have hrendered := operation_rendered host d hop
    obtain ⟨hrequested, hreturned⟩ := hhears.asked hrendered.wanted (r.step .poll)
    exact ih.operation host (.tick now r.loader.poll.1) hop hserved.accounted.requested hrequested
      hreturned

/-- The loader neither leaks, loses nor repeats loads, however its workers go on between the calls of its owner.
-/
theorem loads_are_answers (host : WidgetHost) (options : DocumentOptions) :
    (∀ events,
      let r := LoaderRun.initial.run events
      r.requested.Perm (r.returned.map ImageLoad.path ++ r.loader.outstanding) ∧
      (∀ l ∈ r.loader.poll.1, l.path ∈ r.requested) ∧
      (r.loader.AtRest →
        r.requested.Perm ((r.returned ++ r.loader.poll.1).map ImageLoad.path)) ∧
      ∃ (f : String → String) (named : List LoaderEvent),
        let s := LoaderRun.initial.run named
        events = named.map (LoaderEvent.rename f) ∧ (named.filterMap LoaderEvent.path?).Nodup ∧
        r = s.rename f ∧ s.requested.Nodup ∧
        ((s.returned ++ s.loader.poll.1).map ImageLoad.path).Nodup ∧
        ∀ l ∈ s.returned ++ s.loader.poll.1, l.path ∈ s.requested) ∧
    ∀ d r, ServedBy host options d r →
      (∃ events, r = LoaderRun.initial.run events) ∧
      ∀ path e, d.images.get? path = some e → e ≠ .pending →
        path ∈ r.requested ∧ ∃ l ∈ r.returned, l.path = path ∧ e = .ofLoad l.picture := by
  constructor
  · intro events r
    have haccounted : r.Accounted := LoaderRun.run_accounted LoaderRun.initial_accounted events
    refine ⟨haccounted.balance, ?_, haccounted.atRest, ?_⟩
    · exact fun l hl => haccounted.requested l (List.mem_append_right _ hl)
    · obtain ⟨f, named, hevents, hnames⟩ := LoaderRun.exists_named events
      have hnamed : (LoaderRun.initial.run named).Accounted :=
        LoaderRun.run_accounted LoaderRun.initial_accounted named
      have hnodup := hnames.sublist (LoaderRun.run_requested LoaderRun.initial named)
      have hrun := LoaderRun.run_rename f LoaderRun.initial named
      rw [hevents, LoaderRun.initial_rename] at hrun
      exact ⟨f, named, hevents.symm, hnames, hrun, hnodup, hnamed.nodup hnodup, hnamed.requested⟩
  · intro d r hserved
    refine ⟨hserved.events, ?_⟩
    intro path e hget hdone
    have hafter := hserved.pictured.loaded path e hget
    cases hload : ImageLoad.first? path r.returned with
    | none =>
      rw [hload] at hafter
      exact absurd hafter hdone
    | some l =>
      obtain ⟨hl, rfl⟩ := ImageLoad.first?_eq_some hload
      rw [hload] at hafter
      exact ⟨hserved.accounted.requested l (List.mem_append_left _ hl), l, hl, rfl, hafter⟩

theorem loads_are_answers_logo :
    let host : WidgetHost := ⟨fun _ => none, fun _ _ => .ok (), fun _ box => box⟩
    let d := ((create DocumentOptions.standard).document.paint host logo.source).document
    let r := LoaderRun.initial.run [.request "logo.png", .work (.take 3), .work (.check 3),
      .work (.post 3 (some (Bitmap.blank 1 1)))]
    (r.loader.AtRest ∧ r.requested.Perm ((r.returned ++ r.loader.poll.1).map ImageLoad.path)) ∧
      ServedBy host DocumentOptions.standard (d.tick 0 r.loader.poll.1).2.document (r.step .poll) ∧
      (d.tick 0 r.loader.poll.1).2.document.images.get? "logo.png" =
        some (.ready (Bitmap.blank 1 1)) ∧
      "logo.png" ∈ (r.step .poll).requested := by
  intro host d r
  have hpaint : (create DocumentOptions.standard).document.paint host logo.source = _ :=
    paint_logo host rfl
  obtain ⟨hloader, hdocument⟩ := loads_are_answers host DocumentOptions.standard
  obtain ⟨-, -, hanswered, -⟩ := hloader [.request "logo.png", .work (.take 3), .work (.check 3),
    .work (.post 3 (some (Bitmap.blank 1 1)))]
  have hrest : r.loader.AtRest := ⟨rfl, by decide⟩
  have hcreated : ServedBy host DocumentOptions.standard (create DocumentOptions.standard).document
      LoaderRun.initial := by
    have hnothing : Hears (create DocumentOptions.standard).effects [] :=
      .of_forall Effect.isHeard_calls
    exact .create hnothing
  have hpainted : ServedBy host DocumentOptions.standard d
      (LoaderRun.initial.run [.request "logo.png"]) := by
    have hop : (DocumentOperation.paint logo.source).polls = false := rfl
    have hasked : Hears ((create DocumentOptions.standard).document.paint host logo.source).effects
        [.request "logo.png"] := by
      rw [hpaint]
      exact (Hears.of_forall Effect.isHeard_calls).append (.request "logo.png" .nil)
    exact hcreated.operate hop hasked
  have hposted := ((hpainted.work (.take 3)).work (.check 3)).work (.post 3 (some (Bitmap.blank 1 1)))
  have hd : d = { (create DocumentOptions.standard).document with images := ⟨[("logo.png", .pending)]⟩ } :=
    congrArg Outcome.document hpaint
  have hquiet : Hears (d.tick 0 r.loader.poll.1).2.effects [] := by
    rw [hd]
    exact .nil
  have hready : (d.tick 0 r.loader.poll.1).2.document.images.get? "logo.png" =
      some (.ready (Bitmap.blank 1 1)) := by
    rw [hd]
    rfl
  have hserved : ServedBy host DocumentOptions.standard (d.tick 0 r.loader.poll.1).2.document
      (r.step .poll) :=
    hposted.tick 0 hquiet
  obtain ⟨-, hloaded⟩ := hdocument _ _ hserved
  obtain ⟨hrequested, -⟩ := hloaded "logo.png" _ hready nofun
  exact ⟨⟨hrest, hanswered hrest⟩, hserved, hready, hrequested⟩

end Document

end BandCanvas
