import BandCanvas.Proofs.Document.Response

namespace BandCanvas.Overlay

variable (host : WidgetHost) {o o' : Overlay} {tag t : String}

/-- Where a widget is, or would be if it were made. -/
def whereabouts (o : Overlay) (tag : String) : Option CssRect :=
  host.bounds tag ((o.mounted.find? (·.tag = tag)).bind Widget.box)

/-- Every widget that is mounted was made by the host, and the active one is among them. -/
structure Sound (o : Overlay) : Prop where
  made : ∀ w ∈ o.mounted, host.create w.tag = some (.ok ())
  active : ∀ tag, o.active = some tag → ∃ w, o.mounted.find? (·.tag = tag) = some w

def withWidget (tag : String) (o : Overlay) : Overlay :=
  if o.mounted.any (·.tag = tag) then o else { o with mounted := ⟨tag, none⟩ :: o.mounted }

theorem find?_of_any {ws : List Widget} (h : ws.any (·.tag = tag) = true) :
    ∃ w, ws.find? (·.tag = tag) = some w := by
  obtain ⟨w, hw, htag⟩ := List.any_eq_true.1 h
  exact Option.isSome_iff_exists.1 (List.find?_isSome.2 ⟨w, hw, htag⟩)

theorem tag_of_find? {ws : List Widget} {w : Widget} (h : ws.find? (·.tag = tag) = some w) :
    w.tag = tag := by
  simpa using List.find?_some h

theorem find?_withWidget (tag : String) (o : Overlay) :
    ∃ w, (o.withWidget tag).mounted.find? (·.tag = tag) = some w := by
  rw [withWidget]
  split
  next h => exact find?_of_any h
  next => exact ⟨⟨tag, none⟩, List.find?_cons_of_pos (decide_eq_true rfl)⟩

theorem withWidget_eq (tag : String) (o : Overlay) :
    ∃ mounted, o.withWidget tag = { o with mounted } := by
  rw [withWidget]
  split
  · exact ⟨o.mounted, rfl⟩
  · exact ⟨⟨tag, none⟩ :: o.mounted, rfl⟩

theorem whereabouts_withWidget (tag t : String) (o : Overlay) :
    (o.withWidget tag).whereabouts host t = o.whereabouts host t := by
  rw [withWidget]
  split
  next => rfl
  next h =>
    by_cases ht : tag = t
    · subst ht
      have hnone : o.mounted.find? (·.tag = tag) = none := by
        rw [List.find?_eq_none]
        intro w hw htag
        exact h (List.any_eq_true.2 ⟨w, hw, htag⟩)
      simp [whereabouts, hnone]
    · simp [whereabouts, ht]

def placed (tag : String) (box : CssRect) (ws : List Widget) : List Widget :=
  ws.map fun w => if w.tag = tag then { w with box := some box } else w

theorem find?_placed (tag t : String) (box : CssRect) (ws : List Widget) :
    (placed tag box ws).find? (·.tag = t) =
      (ws.find? (·.tag = t)).map fun w => if w.tag = tag then { w with box := some box } else w := by
  rw [placed, List.find?_map]
  congr 2
  funext w
  by_cases hw : w.tag = tag <;> simp [hw]

theorem whereabouts_placed {w : Widget} (h : o.mounted.find? (·.tag = tag) = some w) (box : CssRect)
    (binding : EditorBinding) (t : String) :
    { o with mounted := placed tag box o.mounted, binding, visible := true }.whereabouts host t =
      if t = tag then host.bounds t (some box) else o.whereabouts host t := by
  rw [whereabouts, find?_placed]
  by_cases ht : t = tag
  · subst ht
    rw [h, if_pos rfl]
    simp [tag_of_find? h]
  · rw [if_neg ht, whereabouts]
    cases hfind : o.mounted.find? (·.tag = t) with
    | none => rfl
    | some v =>
      have hv : v.tag ≠ tag := by
        rw [tag_of_find? hfind]
        exact ht
      simp [hv]

namespace Sound

theorem initial (defaultTag : String) : Sound host (Overlay.initial defaultTag) where
  made := List.forall_mem_nil _
  active _ h := nomatch h

variable {host}

theorem tell (h : o.Sound host) (actions : List WidgetAction) :
    o.tell actions = o.active.elim [] fun tag => actions.map fun a => (tag, a) := by
  rw [Overlay.tell, widget?]
  cases hactive : o.active with
  | none => rfl
  | some tag =>
    obtain ⟨w, hw⟩ := h.active tag hactive
    rw [Option.bind_some, hw, ← tag_of_find? hw]
    rfl

theorem bounds? (h : o.Sound host) : o.bounds? host = o.active.bind (o.whereabouts host) := by
  rw [Overlay.bounds?, widget?]
  cases hactive : o.active with
  | none => rfl
  | some tag =>
    obtain ⟨w, hw⟩ := h.active tag hactive
    rw [Option.bind_some, Option.bind_some, whereabouts, hw, ← tag_of_find? hw]
    rfl

theorem unbound (h : o.Sound host) : o.unbound.Sound host where
  made := h.made
  active _ hactive := nomatch hactive

theorem withWidget (h : o.Sound host) (hcreate : host.create tag = some (.ok ())) :
    (o.withWidget tag).Sound host := by
  rw [Overlay.withWidget]
  split
  next => exact h
  next =>
    constructor
    · exact List.forall_mem_cons.2 ⟨hcreate, h.made⟩
    · intro t hactive
      by_cases ht : tag = t
      · exact ⟨⟨tag, none⟩, List.find?_cons_of_pos (decide_eq_true ht)⟩
      · obtain ⟨w, hw⟩ := h.active t hactive
        exact ⟨w, (List.find?_cons_of_neg (by simpa using ht)).trans hw⟩

theorem prepare (h : o.Sound host) (hactive : o.active = some tag) (ratio : Float) (box : DeviceRect) :
    o.prepare ratio box =
      ({ o with
          mounted := placed tag (CssRect.ofDevice ratio box) o.mounted
          binding := { o.binding with box := some box }
          visible := true },
        o.tell [.place (CssRect.ofDevice ratio box), .setVisible true]) := by
  obtain ⟨w, hw⟩ := h.active tag hactive
  have hwidget : o.widget? = some w := by
    rw [widget?, hactive]
    exact hw
  simp only [Overlay.prepare, hwidget, tag_of_find? hw]
  rfl

theorem placed (h : o.Sound host) (tag : String) (box : CssRect) (binding : EditorBinding) :
    Sound host { o with mounted := placed tag box o.mounted, binding, visible := true } where
  made w hw := by
    obtain ⟨v, hv, rfl⟩ := List.mem_map.1 hw
    have hmade := h.made v hv
    by_cases htag : v.tag = tag
    · rw [if_pos htag]
      exact hmade
    · rw [if_neg htag]
      exact hmade
  active t hactive := by
    obtain ⟨w, hw⟩ := h.active t hactive
    rw [find?_placed, hw]
    exact ⟨_, rfl⟩

/-- A widget is mounted if the host makes it. It does not matter whether it was mounted before. -/
theorem mount (h : o.Sound host) (tag : String) (binding : Json) :
    o.mount host tag binding =
      match host.create tag with
      | none => (some (.unregistered tag), o, [])
      | some (.error cause) => (some (.unmade tag cause), o, [])
      | some (.ok ()) => (o.withWidget tag).bind host tag binding := by
  rw [Overlay.mount, Overlay.withWidget]
  split
  next hmounted =>
    obtain ⟨w, hw⟩ := find?_of_any hmounted
    have hcreate := h.made w (List.mem_of_find?_eq_some hw)
    rw [tag_of_find? hw] at hcreate
    rw [hcreate]
  next => rfl

end Sound

/-- The same bindings, of widgets that are at the same places. -/
structure Agree (o o' : Overlay) : Prop where
  sound : o.Sound host
  sound' : o'.Sound host
  defaultTag : o'.defaultTag = o.defaultTag
  active : o'.active = o.active
  binding : o'.binding = o.binding
  visible : o'.visible = o.visible
  whereabouts : ∀ tag, o'.whereabouts host tag = o.whereabouts host tag

/-- Steps of overlays that agree still, with the same actions. -/
def Agrees (step step' : OverlayStep) : Prop :=
  Agree host step.1 step'.1 ∧ step'.2 = step.2

namespace Agree

variable {host}

theorem tell (h : Agree host o o') (actions : List WidgetAction) : o'.tell actions = o.tell actions := by
  rw [h.sound'.tell, h.sound.tell, h.active]

theorem bounds? (h : Agree host o o') : o'.bounds? host = o.bounds? host := by
  rw [h.sound'.bounds?, h.sound.bounds?, h.active]
  exact congrArg o.active.bind (funext h.whereabouts)

theorem rebound (h : Agree host o o') {b b' : EditorBinding} {v v' : Bool} (hbinding : b' = b)
    (hvisible : v' = v) :
    Agree host { o with binding := b, visible := v } { o' with binding := b', visible := v' } :=
  ⟨⟨h.sound.made, h.sound.active⟩, ⟨h.sound'.made, h.sound'.active⟩, h.defaultTag, h.active, hbinding,
    hvisible, h.whereabouts⟩

theorem unbound (h : Agree host o o') : Agree host o.unbound o'.unbound :=
  ⟨h.sound.unbound, h.sound'.unbound, h.defaultTag, rfl, rfl, rfl, h.whereabouts⟩

theorem reset (h : Agree host o o') : Agrees host o.reset o'.reset :=
  ⟨h.unbound, h.tell [.detach, .setVisible false]⟩

theorem withWidget (h : Agree host o o') (hcreate : host.create tag = some (.ok ())) :
    Agree host (o.withWidget tag) (o'.withWidget tag) := by
  have hsound := h.sound.withWidget hcreate
  have hsound' := h.sound'.withWidget hcreate
  have hplaces : ∀ t,
      (o'.withWidget tag).whereabouts host t = (o.withWidget tag).whereabouts host t := by
    intro t
    rw [whereabouts_withWidget, whereabouts_withWidget, h.whereabouts]
  obtain ⟨mounted, heq⟩ := o.withWidget_eq tag
  obtain ⟨mounted', heq'⟩ := o'.withWidget_eq tag
  rw [heq] at hsound hplaces ⊢
  rw [heq'] at hsound' hplaces ⊢
  exact ⟨hsound, hsound', h.defaultTag, h.active, h.binding, h.visible, hplaces⟩

theorem bind (h : Agree host o o') (hw : ∃ w, o.mounted.find? (·.tag = tag) = some w)
    (hw' : ∃ w, o'.mounted.find? (·.tag = tag) = some w) (binding : Json) :
    (o'.bind host tag binding).1 = (o.bind host tag binding).1 ∧
      Agrees host (o.bind host tag binding).2 (o'.bind host tag binding).2 := by
  rw [Overlay.bind, Overlay.bind]
  cases host.attach tag binding with
  | error cause => exact ⟨rfl, h, rfl⟩
  | ok =>
    have hbinding := congrArg (fun b : EditorBinding => { b with payload := some binding }) h.binding
    have hactive : ∀ t, some tag = some t → ∃ w, o.mounted.find? (·.tag = t) = some w := by
      rintro t ⟨⟩
      exact hw
    have hactive' : ∀ t, some tag = some t → ∃ w, o'.mounted.find? (·.tag = t) = some w := by
      rintro t ⟨⟩
      exact hw'
    exact ⟨rfl, ⟨⟨h.sound.made, hactive⟩, ⟨h.sound'.made, hactive'⟩, h.defaultTag, rfl, hbinding, rfl,
      h.whereabouts⟩, rfl⟩

theorem mount (h : Agree host o o') (tag : String) (binding : Json) :
    (o'.mount host tag binding).1 = (o.mount host tag binding).1 ∧
      Agrees host (o.mount host tag binding).2 (o'.mount host tag binding).2 := by
  rw [h.sound.mount, h.sound'.mount]
  split
  · exact ⟨rfl, h, rfl⟩
  · exact ⟨rfl, h, rfl⟩
  next hcreate =>
    exact (h.withWidget hcreate).bind (o.find?_withWidget tag) (o'.find?_withWidget tag) binding

theorem attach (h : Agree host o o') (ratio : Float) (json : String) :
    (o'.attach host ratio json).1 = (o.attach host ratio json).1 ∧
      Agrees host (o.attach host ratio json).2 (o'.attach host ratio json).2 := by
  obtain ⟨hunbound, hhidden⟩ := h.reset
  simp only [Overlay.attach]
  cases Json.parse? json with
  | none => exact ⟨rfl, hunbound, hhidden⟩
  | some binding =>
    dsimp only
    rw [hunbound.defaultTag]
    obtain ⟨herror, hmounted, hactions⟩ :=
      hunbound.mount ((EditorBinding.widgetTag? binding).getD o.reset.1.defaultTag)
        (EditorBinding.scaled ratio binding)
    exact ⟨herror, hmounted, by rw [hhidden, hactions]⟩

theorem configure (h : Agree host o o') (mode : EditMode) :
    Agrees host (o.configure mode) (o'.configure mode) := by
  have hbinding := congrArg (fun b : EditorBinding => { b with mode := some mode }) h.binding
  exact ⟨h.rebound hbinding h.visible, h.tell [.configure mode]⟩

theorem start (h : Agree host o o') (ratio : Float) (field : EditorStart) :
    Agrees host (o.start ratio field) (o'.start ratio field) := by
  have hbinding := congrArg (fun b : EditorBinding => { b with band := some field.band }) h.binding
  exact ⟨h.rebound hbinding h.visible, h.tell _⟩

theorem update (h : Agree host o o') (content : EditorUpdate) :
    Agrees host (o.update content) (o'.update content) :=
  ⟨h, h.tell [.update content]⟩

theorem finish (h : Agree host o o') : Agrees host o.finish o'.finish :=
  ⟨h.rebound rfl rfl, h.tell [.detach]⟩

theorem hint (h : Agree host o o') (box : CssRect) (text : String) :
    Agrees host (o.hint host box text) (o'.hint host box text) := by
  simp only [Overlay.hint, h.bounds?]
  split
  · exact ⟨h, h.tell [.showTooltip text]⟩
  · exact ⟨h, rfl⟩

theorem prepare (h : Agree host o o') (ratio : Float) (box : DeviceRect) :
    Agrees host (o.prepare ratio box) (o'.prepare ratio box) := by
  have hbinding := congrArg (fun b : EditorBinding => { b with box := some box }) h.binding
  cases hactive : o.active with
  | none =>
    have hnone : o.widget? = none := by rw [widget?, hactive]; rfl
    have hnone' : o'.widget? = none := by rw [widget?, h.active, hactive]; rfl
    simp only [Overlay.prepare, hnone, hnone']
    exact ⟨h.rebound hbinding h.visible, rfl⟩
  | some tag =>
    have hactive' : o'.active = some tag := h.active.trans hactive
    obtain ⟨w, hw⟩ := h.sound.active tag hactive
    obtain ⟨w', hw'⟩ := h.sound'.active tag hactive'
    rw [h.sound.prepare hactive, h.sound'.prepare hactive']
    constructor
    · have hsound := h.sound.placed tag (CssRect.ofDevice ratio box) { o.binding with box := some box }
      have hsound' := h.sound'.placed tag (CssRect.ofDevice ratio box) { o'.binding with box := some box }
      apply Agree.mk hsound hsound' h.defaultTag h.active hbinding rfl
      intro t
      rw [whereabouts_placed host hw', whereabouts_placed host hw, h.whereabouts]
    · exact h.tell _

end Agree

theorem Sound.agree (h : o.Sound host) : Agree host o o :=
  ⟨h, h, rfl, rfl, rfl, rfl, fun _ => rfl⟩

theorem Step.sound {ratio : Float} {step : OverlayStep} (hstep : o.Step host ratio step)
    (h : o.Sound host) : step.1.Sound host := by
  have hself := h.agree
  cases hstep with
  | attach json => exact (hself.attach ratio json).2.1.sound
  | configure mode => exact (hself.configure mode).1.sound
  | prepare box => exact (hself.prepare ratio box).1.sound
  | start field => exact (hself.start ratio field).1.sound
  | update content => exact (hself.update content).1.sound
  | finish => exact hself.finish.1.sound
  | hint box text => exact (hself.hint box text).1.sound

theorem mount_defaultTag (tag : String) (binding : Json) (o : Overlay) :
    (o.mount host tag binding).2.1.defaultTag = o.defaultTag := by
  have hbind : ∀ o : Overlay, (o.bind host tag binding).2.1.defaultTag = o.defaultTag := by
    intro o
    rw [Overlay.bind]
    split <;> rfl
  rw [Overlay.mount]
  split
  · exact hbind o
  · split
    · rfl
    · rfl
    · exact hbind _

theorem Step.defaultTag {ratio : Float} {step : OverlayStep} (hstep : o.Step host ratio step) :
    step.1.defaultTag = o.defaultTag := by
  cases hstep with
  | attach json =>
    rw [Overlay.attach]
    cases Json.parse? json with
    | none => rfl
    | some binding => exact mount_defaultTag host _ _ o.unbound
  | prepare box =>
    rw [Overlay.prepare]
    split <;> rfl
  | hint box text =>
    rw [Overlay.hint]
    dsimp only
    split <;> rfl
  | configure | start | update | finish => rfl

end BandCanvas.Overlay
