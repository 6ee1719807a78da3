import BandCanvas.Proofs.Document.FramedText
import BandCanvas.Proofs.Document.Operation

namespace BandCanvas

namespace Document

/-- The same document, but for the texts that its bands and what is painted over them come from. -/
inductive Framed (kept : Fragment → Prop) (c : String) (d : Document) : Document → Prop
  | mk {s : BandStore} {f : Option Fragment}
    (hbands : List.Forall₂ (Band.Framed kept c) d.bands.bands s.bands)
    (hpending : Option.Rel (Fragment.Framed kept c) d.pending f) :
    Framed kept c d { d with bands := s, pending := f }

end Document

structure Outcome.Framed (kept : Fragment → Prop) (c : String) (o o' : Outcome) : Prop where
  document : o.document.Framed kept c o'.document
  effects : o'.effects = o.effects

namespace Outcome.Framed

variable {kept : Fragment → Prop} {c : String} {o o' : Outcome}

theorem andThen {f f' : Document → Outcome} (h : Outcome.Framed kept c o o')
    (hf : ∀ {d d' : Document}, d.Framed kept c d' → Outcome.Framed kept c (f d) (f' d')) :
    Outcome.Framed kept c (o.andThen f) (o'.andThen f') where
  document := (hf h.document).document
  effects := by simp only [Outcome.andThen, h.effects, (hf h.document).effects]

theorem update {f f' : Document → Document} (h : Outcome.Framed kept c o o')
    (hf : ∀ {d d' : Document}, d.Framed kept c d' → (f d).Framed kept c (f' d')) :
    Outcome.Framed kept c (o.update f) (o'.update f') where
  document := hf h.document
  effects := h.effects

end Outcome.Framed

namespace Document

variable {kept : Fragment → Prop} {c : String} {host : WidgetHost} {d d' : Document}

theorem Framed.imp {kept' : Fragment → Prop} (h : d.Framed kept c d') (himp : ∀ f, kept f → kept' f) :
    d.Framed kept' c d' := by
  obtain ⟨hbands, hpending⟩ := h
  constructor
  · exact hbands.imp fun _ _ hb => ⟨hb.rest, hb.fragment.imp himp⟩
  · exact Fragment.pending_imp hpending himp

theorem framed_self (c : String) (hkept : ∀ f ∈ d.fragments, kept f) : d.Framed kept c d := by
  apply Framed.mk
  · rw [List.forall₂_same]
    intro b hb
    exact ⟨rfl, .same (hkept _ (List.mem_append_left _ (List.mem_map_of_mem hb)))⟩
  · cases hpending : d.pending with
    | some f =>
      have hf : f ∈ d.fragments := by
        rw [fragments, hpending]
        exact List.mem_append_right _ (List.mem_singleton_self f)
      exact .some (.same (hkept f hf))
    | none => exact .none

theorem Framed.quiet (h : d.Framed kept c d') : Outcome.Framed kept c d.quiet d'.quiet :=
  ⟨h, rfl⟩

theorem Framed.fragments (h : d.Framed kept c d') :
    List.Forall₂ (Fragment.Framed kept c) d.fragments d'.fragments := by
  obtain ⟨hbands, hpending⟩ := h
  exact List.rel_append (BandStore.fragments_framed hbands) (Fragment.pending_toList hpending)

theorem Framed.hideMenu (h : d.Framed kept c d') : Outcome.Framed kept c d.hideMenu d'.hideMenu := by
  obtain ⟨hbands, hpending⟩ := h
  constructor
  · rw [hideMenu_document, hideMenu_document]
    exact .mk hbands hpending
  · rw [hideMenu_effects, hideMenu_effects]

theorem Framed.menuTarget? (h : d.Framed kept c d') (y : Float) :
    (d'.menuTarget? y).map Band.bare = (d.menuTarget? y).map Band.bare := by
  have hfilter : ∀ d : Document, (d.menuTarget? y).map Band.bare =
      (d.bands.bare.findAtY? y).filter fun b => b.kind == detailKind && b.editable := by
    intro d
    rw [BandStore.findAtY?_bare, Document.menuTarget?]
    cases d.bands.findAtY? y with
    | none => rfl
    | some b =>
      simp only [Option.map_some, Option.filter_some, Band.bare]
      split <;> rfl
  obtain ⟨hbands, -⟩ := h
  rw [hfilter, hfilter, BandStore.bare_framed hbands]

theorem Framed.updateMenu (h : d.Framed kept c d') (y : Float) :
    Outcome.Framed kept c (d.updateMenu y) (d'.updateMenu y) := by
  have htarget := h.menuTarget? y
  have hhidden := h.hideMenu
  have hquiet := h.quiet
  have heditable : d'.editable = d.editable := by cases h; rfl
  have hmenu : d'.menuBand = d.menuBand := by cases h; rfl
  rw [Document.updateMenu, Document.updateMenu, heditable]
  split
  · cases hfound : d.menuTarget? y with
    | none =>
      rw [hfound, Option.map_none, Option.map_eq_none_iff] at htarget
      rw [htarget]
      exact hhidden
    | some b =>
      rw [hfound, Option.map_some, Option.map_eq_some_iff] at htarget
      obtain ⟨b', hfound', hbare⟩ := htarget
      have hid : b'.id = b.id := (Band.mk.inj hbare).1
      have hplace : d'.menuPlace b' = d.menuPlace b := by
        have hbare' : d.menuPlace b'.bare = d.menuPlace b.bare := congrArg d.menuPlace hbare
        cases h
        exact hbare'
      rw [hfound']
      dsimp only
      rw [hid, hmenu, hplace]
      split
      · exact hquiet
      · obtain ⟨hbands, hpending⟩ := h
        exact ⟨.mk hbands hpending, rfl⟩
  · exact hhidden

theorem Framed.adjustScroll (h : d.Framed kept c d') :
    Outcome.Framed kept c (d.adjustScroll host) (d'.adjustScroll host) := by
  have hquiet := h.quiet
  have hscrolled : ∀ dx dy, Outcome.Framed kept c ⟨d, [.event (.scrollBy dx dy)]⟩
      ⟨d', [.event (.scrollBy dx dy)]⟩ :=
    fun dx dy => ⟨h, rfl⟩
  obtain ⟨hbands, hpending⟩ := h
  rw [Document.adjustScroll, Document.adjustScroll]
  dsimp only
  split
  · split
    · exact hscrolled _ _
    · exact hquiet
  · exact hquiet

theorem Framed.withOverlay (h : d.Framed kept c d') (step : OverlayStep) :
    Outcome.Framed kept c (d.withOverlay step) (d'.withOverlay step) := by
  obtain ⟨hbands, hpending⟩ := h
  exact ⟨.mk hbands hpending, rfl⟩

theorem Framed.overlay (h : d.Framed kept c d') : d'.overlay = d.overlay := by
  cases h
  rfl

theorem Framed.ratio (h : d.Framed kept c d') : d'.ratio = d.ratio := by
  cases h
  rfl

theorem Framed.clearPage (h : d.Framed kept c d') : d'.clearPage = d.clearPage := by
  cases h
  rfl

theorem Framed.isEmpty (h : d.Framed kept c d') : d'.bands.isEmpty = d.bands.isEmpty := by
  obtain ⟨hbands, -⟩ := h
  have hbare := congrArg BandStore.isEmpty (BandStore.bare_framed hbands)
  exact List.isEmpty_map.symm.trans (hbare.trans List.isEmpty_map)

theorem Framed.pend (h : d.Framed kept c d') {f f' : Option Fragment}
    (hf : Option.Rel (Fragment.Framed kept c) f f') :
    Framed kept c { d with pending := f } { d' with pending := f' } := by
  obtain ⟨hbands, -⟩ := h
  exact .mk hbands hf

theorem Framed.dropBands (h : d.Framed kept c d') :
    Outcome.Framed kept c d.dropBands d'.dropBands := by
  apply h.hideMenu.update
  rintro d d' ⟨-, -⟩
  exact .mk .nil .none

theorem Framed.attachEditor (h : d.Framed kept c d') (json : String) :
    Outcome.Framed kept c (d.attachEditor host json) (d'.attachEditor host json) := by
  obtain ⟨hbands, hpending⟩ := h
  exact ⟨.mk hbands hpending, rfl⟩

theorem Framed.edit (h : d.Framed kept c d') (e : EditorCommand) :
    Outcome.Framed kept c (d.edit host e) (d'.edit host e) := by
  have hratio := h.ratio
  have hoverlay := h.overlay
  cases e with
  | attach json => exact h.attachEditor json
  | configure mode =>
    rw [Document.edit, Document.edit, hoverlay]
    exact h.withOverlay _
  | start field =>
    rw [Document.edit, Document.edit, hratio, hoverlay]
    exact (h.withOverlay _).andThen fun h => h.adjustScroll
  | update content =>
    rw [Document.edit, Document.edit, hoverlay]
    exact h.withOverlay _
  | finish =>
    rw [Document.edit, Document.edit, hoverlay]
    exact (h.withOverlay _).update fun h => h.pend .none
  | hint box text =>
    rw [Document.edit, Document.edit, hratio, hoverlay]
    exact h.withOverlay _
  | prepare | debugBox | other => exact h.quiet

theorem Framed.drawLive (h : d.Framed kept c d') (p : LivePass) (k : Command) :
    Outcome.Framed kept c (d.drawLive p k).1 (d'.drawLive p k).1 ∧
      (d'.drawLive p k).2 = (d.drawLive p k).2 := by
  obtain ⟨hbands, hpending⟩ := h
  exact ⟨⟨.mk hbands hpending, rfl⟩, rfl⟩

theorem Framed.repaint (h : d.Framed kept c d') : Outcome.Framed kept c d.repaint d'.repaint := by
  have hreplay : Fragment.replayAll d'.ratio d'.fragments d'.images =
      Fragment.replayAll d.ratio d.fragments d.images := by
    have hfragments := h.fragments
    have himages : d'.images = d.images := by cases h; rfl
    rw [h.ratio, himages]
    exact Fragment.replayAll_framed hfragments _ _
  have hclear := h.clearPage
  rw [Document.repaint, Document.repaint, hreplay, hclear]
  obtain ⟨hbands, hpending⟩ := h
  exact ⟨.mk hbands hpending, rfl⟩

variable {source source' : String} {position position' : Nat}

theorem Framed.prepareEditor (h : d.Framed kept c d')
    (hplace : Fragment.Framed kept c ⟨source, position⟩ ⟨source', position'⟩) (box : DeviceRect) :
    Outcome.Framed kept c (d.prepareEditor source position box)
      (d'.prepareEditor source' position' box) := by
  have hplaced := h.withOverlay (d.overlay.prepare d.ratio box)
  have hmenu := hplaced.andThen fun h => h.updateMenu (box.y + box.height / 2)
  rw [Document.prepareEditor, Document.prepareEditor, h.ratio, h.overlay]
  exact hmenu.update fun h => h.pend (.some hplace)

theorem Framed.defineBand (h : d.Framed kept c d')
    (hplace : Fragment.Framed kept c ⟨source, position⟩ ⟨source', position'⟩) (b : BandHeader) :
    Outcome.Framed kept c (d.defineBand source position b) (d'.defineBand source' position' b) := by
  have hband : Band.Framed kept c (b.band source position) (b.band source' position') := ⟨rfl, hplace⟩
  obtain ⟨hbands, hpending⟩ := h
  exact ⟨.mk (BandStore.upsert_framed hbands hband) hpending, rfl⟩

theorem Framed.perform (host : WidgetHost) (h : d.Framed kept c d')
    (hplace : Fragment.Framed kept c ⟨source, position⟩ ⟨source', position'⟩) (p : LivePass)
    (k : Command) :
    Outcome.Framed kept c (d.perform host source position p k).1
        (d'.perform host source' position' p k).1 ∧
      (d'.perform host source' position' p k).2 = (d.perform host source position p k).2 := by
  have hquiet := h.quiet
  cases k with
  | reset hard =>
    cases hard with
    | true =>
      have hcleared : Outcome.Framed kept c ⟨d, Effect.calls d.clearPage⟩
          ⟨d', Effect.calls d'.clearPage⟩ :=
        ⟨h, congrArg Effect.calls h.clearPage⟩
      exact ⟨hcleared.andThen fun h => h.dropBands, rfl⟩
    | false =>
      have hstyled : Outcome.Framed kept c ⟨d, Effect.calls PaintState.initial.styleCalls⟩
          ⟨d', Effect.calls PaintState.initial.styleCalls⟩ :=
        ⟨h, rfl⟩
      exact ⟨hstyled.andThen fun h => h.dropBands, rfl⟩
  | band b => exact ⟨h.defineBand hplace b, rfl⟩
  | update =>
    refine ⟨?_, rfl⟩
    rw [Document.perform, Document.perform, h.isEmpty]
    dsimp only
    split
    · exact hquiet
    · exact h.repaint
  | grid major minor =>
    obtain ⟨hbands, hpending⟩ := h
    exact ⟨⟨.mk hbands hpending, rfl⟩, rfl⟩
  | page number count =>
    obtain ⟨hbands, hpending⟩ := h
    exact ⟨⟨.mk hbands hpending, rfl⟩, rfl⟩
  | editor e =>
    have hedit : Outcome.Framed kept c (d.edit host e) (d'.edit host e) := h.edit e
    cases e with
    | prepare box => exact ⟨h.prepareEditor hplace box, rfl⟩
    | debugBox r => exact h.drawLive p _
    | _ => exact ⟨hedit, rfl⟩
  | _ => exact h.drawLive p _

theorem Framed.live (h : d.Framed kept c d') {f f' : Fragment} {g : Step → Step}
    (hdecoded : f'.decoded = f.decoded.map g) (hg : ∀ x, Step.Framed kept c f.source f'.source x (g x)) :
    Outcome.Framed kept c (d.live host f) (d'.live host f') := by
  have hstyled : Outcome.Framed kept c ⟨d, Effect.calls PaintState.initial.styleCalls⟩
      ⟨d', Effect.calls PaintState.initial.styleCalls⟩ :=
    ⟨h, rfl⟩
  rw [live_eq_runSteps, live_eq_runSteps, hdecoded]
  apply hstyled.andThen
  intro d d' h
  obtain ⟨hdocument, heffects⟩ := runSteps_related (R := Framed kept c) (fun x => (hg x).found)
    (fun x p k d d' h => by
      obtain ⟨⟨hdocument, heffects⟩, hpass⟩ := h.perform host (hg x).place p k
      exact ⟨hdocument, heffects, hpass⟩) f.decoded LivePass.initial h
  exact ⟨hdocument, heffects⟩

theorem Framed.live_same (h : d.Framed kept c d') (hkept : ∀ f, kept f) (f : Fragment) :
    Outcome.Framed kept c (d.live host f) (d'.live host f) := by
  apply h.live (List.map_id f.decoded).symm
  intro x
  exact ⟨rfl, .same (hkept _)⟩

theorem Framed.notify (h : d.Framed kept c d') (n : Notification) :
    Outcome.Framed kept c (d.notify n) (d'.notify n) := by
  obtain ⟨paging, effects, hnoted⟩ := exists_noted n d.paging
  have hpaging : d'.paging = d.paging := by cases h; rfl
  rw [hnoted d rfl, hnoted d' hpaging]
  obtain ⟨hbands, hpending⟩ := h
  exact ⟨.mk hbands hpending, rfl⟩

theorem Framed.tick (h : d.Framed kept c d') (now : Nat) (loads : List ImageLoad) :
    (d'.tick now loads).1 = (d.tick now loads).1 ∧
      Outcome.Framed kept c (d.tick now loads).2 (d'.tick now loads).2 := by
  obtain ⟨hbands, hpending⟩ := h
  refine ⟨rfl, ?_⟩
  rw [Document.tick, Document.tick]
  dsimp only
  generalize completeLoads loads d.images = r
  generalize (if r.1 = true then d.timer.arm now else d.timer).due now = t
  split
  · exact Framed.repaint (.mk hbands hpending)
  · exact Framed.quiet (.mk hbands hpending)

theorem Framed.setZoom (h : d.Framed kept c d') (z : Float) : (d'.setZoom z).1 = (d.setZoom z).1 := by
  cases h
  rfl

theorem Framed.pointerMoved (h : d.Framed kept c d') (y : Float) :
    Outcome.Framed kept c (d.pointerMoved y) (d'.pointerMoved y) := by
  have hquiet := h.quiet
  have hmenu := h.updateMenu (d.scale.cssToDevice y)
  obtain ⟨hbands, hpending⟩ := h
  rw [Document.pointerMoved, Document.pointerMoved]
  dsimp only
  split
  · exact hmenu
  · exact hquiet

theorem Framed.reset (h : d.Framed kept c d') : Outcome.Framed kept c d.reset d'.reset := by
  have hhidden := h.hideMenu.effects
  obtain ⟨hbands, hpending⟩ := h
  rw [reset_eq, reset_eq, hhidden]
  exact ⟨.mk .nil .none, rfl⟩

theorem Framed.handleMessage (h : d.Framed kept c d') (hkept : ∀ f, kept f) (message : String) :
    Outcome.Framed kept c (d.handleMessage host message) (d'.handleMessage host message) := by
  rw [Document.handleMessage, Document.handleMessage]
  split
  · exact h.live_same hkept _
  · cases Notification.parse? _ with
    | none => exact h.quiet
    | some n => exact h.notify n
  · exact h.quiet

theorem Framed.operation (h : d.Framed kept c d') (hkept : ∀ f, kept f) (op : DocumentOperation) :
    Outcome.Framed kept c (op.run host d) (op.run host d') := by
  have hediting : ∀ editable, Framed kept c { d with editable } { d' with editable } := by
    obtain ⟨hbands, hpending⟩ := h
    exact fun editable => .mk hbands hpending
  cases op with
  | message text => exact h.handleMessage hkept text
  | paint commands => exact h.live_same hkept _
  | repaint => exact h.repaint
  | tick now loads => exact (h.tick now loads).2
  | pointer y => exact h.pointerMoved y
  | editable b =>
    rw [DocumentOperation.run, DocumentOperation.run, setEditable, setEditable]
    split
    · exact (hediting b).quiet
    · exact (hediting b).hideMenu
  | reset => exact h.reset
  | zoom | page | fontsLoaded | background | viewport | paging =>
    obtain ⟨hbands, hpending⟩ := h
    exact ⟨.mk hbands hpending, rfl⟩

theorem Framed.course (h : d.Framed kept c d') (hkept : ∀ f, kept f) (ops : List (WidgetHost × DocumentOperation)) :
    Outcome.Framed kept c (d.course ops) (d'.course ops) := by
  induction ops generalizing d d' with
  | nil => exact h.quiet
  | cons op ops ih =>
    apply (h.operation hkept op.2).andThen
    intro d d' h
    exact ih h

theorem framed_message (host : WidgetHost) (d : Document) (c : String) :
    Outcome.Framed (· ∈ d.fragments) c (d.paint host c) (d.handleMessage host ("D:" ++ c)) := by
  have htext : ("D:" ++ c).toList = 'D' :: ':' :: c.toList := String.toList_append
  rw [handleMessage_stream htext]
  exact (d.framed_self c fun _ hf => hf).live (Fragment.decoded_framed c 0) (Step.shift_framed _ c)

/-- A message says and does what its bare text says and does, and so does whatever is done after it. -/
theorem message_framing_transparent (host : WidgetHost) (d : Document) (c : String) :
    let painted := d.paint host c
    let handled := d.handleMessage host ("D:" ++ c)
    handled.effects = painted.effects ∧
      painted.document.Framed (· ∈ d.fragments) c handled.document ∧
      ∀ ops : List (WidgetHost × DocumentOperation),
        let painted := painted.document.course ops
        let handled := handled.document.course ops
        handled.effects = painted.effects ∧
          painted.document.Framed (fun _ => True) c handled.document ∧
          (∀ now loads, (handled.document.tick now loads).1 = (painted.document.tick now loads).1) ∧
          ∀ z, (handled.document.setZoom z).1 = (painted.document.setZoom z).1 := by
  intro painted handled
  have hframed : Outcome.Framed (· ∈ d.fragments) c painted handled := d.framed_message host c
  refine ⟨hframed.effects, hframed.document, fun ops => ?_⟩
  have hafter : painted.document.Framed (fun _ => True) c handled.document :=
    hframed.document.imp fun _ _ => trivial
  obtain ⟨hdocument, heffects⟩ := hafter.course (fun _ => trivial) ops
  exact ⟨heffects, hdocument, fun now loads => (hdocument.tick now loads).1, hdocument.setZoom⟩

end Document

end BandCanvas
