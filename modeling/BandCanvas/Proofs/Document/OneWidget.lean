import BandCanvas.Proofs.Document.Mounted

namespace BandCanvas

inductive OverlayOperation where
  | attach (ratio : Float) (json : String)
  | configure (mode : EditMode)
  | prepare (ratio : Float) (box : DeviceRect)
  | start (ratio : Float) (field : EditorStart)
  | update (content : EditorUpdate)
  | finish
  | hint (box : CssRect) (text : String)
  | reset

namespace WidgetHost

variable (host : WidgetHost) (tag : String)

/-- Whether a widget is made when it is asked for. -/
def makes : Bool :=
  match host.create tag with
  | some (.ok ()) => true
  | _ => false

/-- Whether a widget takes what it is told. Only a binding can be refused. -/
def takes : WidgetAction → Bool
  | .attach binding => (host.attach tag binding).isOk
  | _ => true

end WidgetHost

/-- Whether an action neither shows or hides a widget, nor gives it a binding. -/
def WidgetAction.isQuiet : WidgetAction → Bool
  | .attach _ | .setVisible _ => false
  | _ => true

structure Told where
  tag : String
  action : WidgetAction
  taken : Bool

namespace Told

def log (host : WidgetHost) (actions : List (String × WidgetAction)) : List Told :=
  actions.map fun (tag, a) => ⟨tag, a, host.takes tag a⟩

def shown? (t : Told) : Option Bool :=
  match t.action with
  | .setVisible visible => some visible
  | _ => none

def bound? (t : Told) : Option Bool :=
  match t.action with
  | .attach _ => some t.taken
  | _ => none

/-- Whether a widget has a binding, where it is told to take one or to drop it. -/
def holds? (t : Told) : Option Bool :=
  match t.action with
  | .attach _ => some t.taken
  | .detach => some false
  | _ => none

/-- The latest that is known of a widget from what it was told. -/
def latest (question : Told → Option Bool) (tag : String) (told : List Told) : Option Bool :=
  told.reverse.findSome? fun t => if t.tag = tag then question t else none

variable {question : Told → Option Bool} {host : WidgetHost} {tag t : String} {told more : List Told}
  {actions : List WidgetAction}

theorem latest_append (question : Told → Option Bool) (tag : String) (told more : List Told) :
    latest question tag (told ++ more) = (latest question tag more).or (latest question tag told) := by
  rw [latest, List.reverse_append, List.findSome?_append]
  rfl

theorem latest_still (hmore : ∀ x ∈ more, question x = none) :
    latest question tag (told ++ more) = latest question tag told := by
  have hnone : latest question tag more = none := by
    apply List.findSome?_eq_none_iff.2
    intro x hx
    rw [hmore x (List.mem_reverse.1 hx), ite_self]
  rw [latest_append, hnone, Option.none_or]

theorem latest_log (question : Told → Option Bool) (actions : List WidgetAction) (told : List Told) :
    latest question tag (told ++ log host (actions.map fun a => (tag, a))) =
      (actions.reverse.findSome? fun a => question ⟨tag, a, host.takes tag a⟩).or
        (latest question tag told) := by
  rw [latest_append, latest, log, List.map_map, ← List.map_reverse, List.findSome?_map]
  simp only [Function.comp_def, if_true]

theorem latest_other (h : tag ≠ t) :
    latest question t (told ++ log host (actions.map fun a => (tag, a))) = latest question t told := by
  have hnone : latest question t (log host (actions.map fun a => (tag, a))) = none := by
    apply List.findSome?_eq_none_iff.2
    intro x hx
    simp only [log, List.map_map, List.mem_reverse, List.mem_map] at hx
    obtain ⟨a, -, rfl⟩ := hx
    exact if_neg h
  rw [latest_append, hnone, Option.none_or]

theorem quiet_of_isQuiet {a : WidgetAction} {taken : Bool} (h : a.isQuiet = true) :
    (Told.mk tag a taken).shown? = none ∧ (Told.mk tag a taken).bound? = none := by
  cases a with
  | attach | setVisible => cases h
  | _ => exact ⟨rfl, rfl⟩

theorem log_append (host : WidgetHost) (as bs : List (String × WidgetAction)) :
    log host (as ++ bs) = log host as ++ log host bs :=
  List.map_append

end Told

namespace OverlayOperation

variable (host : WidgetHost) (o : Overlay)

def run : OverlayOperation → OverlayStep
  | attach ratio json => (o.attach host ratio json).2
  | configure mode => o.configure mode
  | prepare ratio box => o.prepare ratio box
  | start ratio field => o.start ratio field
  | update content => o.update content
  | finish => o.finish
  | hint box text => o.hint host box text
  | reset => o.reset

/-- The widget that the host is asked to make: the one that a binding names, unless it is mounted. -/
def asksFor? : OverlayOperation → Option String
  | attach _ json =>
    (Json.parse? json).bind fun binding =>
      let tag := (EditorBinding.widgetTag? binding).getD o.defaultTag
      if o.mounted.any (·.tag = tag) then none else some tag
  | _ => none

def makes? (op : OverlayOperation) : Option String :=
  (op.asksFor? o).filter host.makes

end OverlayOperation

/-- An overlay, the widgets that were made for it, the newest first, and what widgets were told. -/
structure OverlayHistory where
  overlay : Overlay
  made : List String
  told : List Told

namespace OverlayHistory

def initial (defaultTag : String) : OverlayHistory :=
  ⟨Overlay.initial defaultTag, [], []⟩

def next (x : OverlayHistory) (host : WidgetHost) (op : OverlayOperation) : OverlayHistory :=
  let step := op.run host x.overlay
  ⟨step.1, (op.makes? host x.overlay).toList ++ x.made, x.told ++ Told.log host step.2⟩

/-- The history after operations, each of them with what its host says at that time. -/
def after (defaultTag : String) (ops : List (WidgetHost × OverlayOperation)) : OverlayHistory :=
  ops.foldl (fun x (host, op) => x.next host op) (initial defaultTag)

end OverlayHistory

namespace Overlay

open Told

variable {host : WidgetHost} {o o' : Overlay} {told more : List Told} {tag : String}

def tags (o : Overlay) : List String :=
  o.mounted.map Widget.tag

theorem mem_tags_iff : tag ∈ o.tags ↔ o.mounted.any (·.tag = tag) = true := by
  simp [tags]

/-- The active widget has taken its binding and is shown; no other one is. -/
structure OneShown (o : Overlay) (told : List Told) : Prop where
  mounted : ∀ tag, o.active = some tag → tag ∈ o.tags
  bound : ∀ tag, o.active = some tag → latest bound? tag told = some true
  shown : ∀ tag, o.active = some tag → latest shown? tag told = some true
  hidden : ∀ tag, o.active ≠ some tag → latest shown? tag told ≠ some true
  visible : o.visible = true → o.active.isSome = true

namespace OneShown

theorem initial (defaultTag : String) : (Overlay.initial defaultTag).OneShown [] where
  mounted _ h := nomatch h
  bound _ h := nomatch h
  shown _ h := nomatch h
  hidden _ _ := nofun
  visible h := nomatch h

theorem tell (h : o.OneShown told) (actions : List WidgetAction) :
    o.tell actions = o.active.elim [] fun tag => actions.map fun a => (tag, a) := by
  rw [Overlay.tell, widget?]
  cases hactive : o.active with
  | none => rfl
  | some tag =>
    obtain ⟨w, hw⟩ := find?_of_any (mem_tags_iff.1 (h.mounted tag hactive))
    rw [Option.bind_some, hw, ← tag_of_find? hw]
    rfl

theorem still (h : o.OneShown told) (hactive : o'.active = o.active) (htags : o'.tags = o.tags)
    (hvisible : o'.visible = true → o.visible = true)
    (hquiet : ∀ x ∈ more, x.shown? = none ∧ x.bound? = none) : o'.OneShown (told ++ more) where
  mounted tag ht := htags ▸ h.mounted tag (hactive ▸ ht)
  bound tag ht := by
    rw [latest_still fun x hx => (hquiet x hx).2]
    exact h.bound tag (hactive ▸ ht)
  shown tag ht := by
    rw [latest_still fun x hx => (hquiet x hx).1]
    exact h.shown tag (hactive ▸ ht)
  hidden tag ht := by
    rw [latest_still fun x hx => (hquiet x hx).1]
    exact h.hidden tag (hactive ▸ ht)
  visible hv := hactive ▸ h.visible (hvisible hv)

theorem tellQuiet {actions : List WidgetAction} (h : o.OneShown told) (hactive : o'.active = o.active)
    (htags : o'.tags = o.tags) (hvisible : o'.visible = true → o.visible = true)
    (hquiet : ∀ a ∈ actions, a.isQuiet = true) :
    o'.OneShown (told ++ log host (o.tell actions)) := by
  apply h.still hactive htags hvisible
  intro x hx
  rw [h.tell] at hx
  cases ho : o.active with
  | none =>
    rw [ho] at hx
    cases hx
  | some tag =>
    rw [ho] at hx
    simp only [log, Option.elim, List.map_map, List.mem_map] at hx
    obtain ⟨a, ha, rfl⟩ := hx
    exact quiet_of_isQuiet (hquiet a ha)

theorem inactive (hactive : o.active = none) (hvisible : o.visible = false)
    (hhidden : ∀ tag, latest shown? tag told ≠ some true) : o.OneShown told where
  mounted _ ht := nomatch hactive ▸ ht
  bound _ ht := nomatch hactive ▸ ht
  shown _ ht := nomatch hactive ▸ ht
  hidden tag _ := hhidden tag
  visible hv := nomatch hvisible ▸ hv

theorem unbound (h : o.OneShown told) :
    o.unbound.OneShown (told ++ log host (o.tell [.detach, .setVisible false])) := by
  apply inactive rfl rfl
  intro tag
  have hother := h.hidden tag
  rw [h.tell]
  cases hactive : o.active with
  | none =>
    rw [hactive] at hother
    rw [latest_append]
    exact hother nofun
  | some active =>
    rw [hactive] at hother
    by_cases htag : active = tag
    · rw [htag, Option.elim_some, latest_log]
      exact nofun
    · rw [Option.elim_some, latest_other htag]
      exact hother fun heq => htag (Option.some.inj heq)

theorem noneShown (h : o.OneShown told) (hactive : o.active = none) (tag : String) :
    latest shown? tag told ≠ some true := by
  apply h.hidden
  rw [hactive]
  exact (Option.some_ne_none tag).symm

theorem bind (h : o.OneShown told) (hactive : o.active = none) (hvisible : o.visible = false)
    (hmounted : tag ∈ o.tags) (binding : Json) :
    (o.bind host tag binding).2.1.OneShown (told ++ log host (o.bind host tag binding).2.2) := by
  have hhidden : ∀ t, latest shown? t told ≠ some true := h.noneShown hactive
  rw [Overlay.bind]
  cases hattach : host.attach tag binding with
  | error cause =>
    apply inactive hactive hvisible
    intro t
    rw [latest_still]
    · exact hhidden t
    · exact List.forall_mem_cons.2 ⟨rfl, List.forall_mem_singleton.2 rfl⟩
  | ok =>
    have htakes : host.takes tag (.attach binding) = true := by
      rw [WidgetHost.takes, hattach]
      rfl
    show OneShown _ (told ++ log host ([.attach binding, .setVisible true, .focus].map fun a => (tag, a)))
    constructor
    · rintro t ⟨⟩
      exact hmounted
    · rintro t ⟨⟩
      rw [latest_log]
      show (some (host.takes tag (.attach binding))).or _ = some true
      rw [htakes]
      rfl
    · rintro t ⟨⟩
      rw [latest_log]
      rfl
    · intro t ht
      rw [latest_other fun heq => ht (congrArg some heq)]
      exact hhidden t
    · exact fun _ => rfl

theorem mount (h : o.OneShown told) (hactive : o.active = none) (hvisible : o.visible = false)
    (tag : String) (binding : Json) :
    (o.mount host tag binding).2.1.OneShown (told ++ log host (o.mount host tag binding).2.2) := by
  have hquiet : o.OneShown (told ++ log host []) :=
    h.still rfl rfl id (List.forall_mem_nil _)
  rw [Overlay.mount]
  split
  next hmounted => exact h.bind hactive hvisible (mem_tags_iff.2 hmounted) binding
  next =>
    split
    · exact hquiet
    · exact hquiet
    next =>
      have hmade : OneShown { o with mounted := ⟨tag, none⟩ :: o.mounted } told :=
        inactive hactive hvisible (h.noneShown hactive)
      exact hmade.bind hactive hvisible List.mem_cons_self binding

theorem attach (h : o.OneShown told) (ratio : Float) (json : String) :
    (o.attach host ratio json).2.1.OneShown (told ++ log host (o.attach host ratio json).2.2) := by
  have hunbound : o.unbound.OneShown (told ++ log host (o.tell [.detach, .setVisible false])) :=
    h.unbound
  simp only [Overlay.attach]
  cases Json.parse? json with
  | none => exact hunbound
  | some binding =>
    dsimp only
    rw [log_append, ← List.append_assoc]
    exact hunbound.mount rfl rfl _ _

theorem tags_placed (tag : String) (box : CssRect) (ws : List Widget) :
    (placed tag box ws).map Widget.tag = ws.map Widget.tag := by
  rw [placed, List.map_map]
  apply List.map_congr_left
  intro w _
  show Widget.tag (if w.tag = tag then _ else w) = w.tag
  split <;> rfl

theorem prepare (h : o.OneShown told) (ratio : Float) (box : DeviceRect) :
    (o.prepare ratio box).1.OneShown (told ++ log host (o.prepare ratio box).2) := by
  rw [Overlay.prepare]
  split
  next => exact h.still rfl rfl id (List.forall_mem_nil _)
  next w hw =>
    obtain ⟨tag, hactive, hfind⟩ := Option.bind_eq_some_iff.1 hw
    have htold : o.tell [.place (CssRect.ofDevice ratio box), .setVisible true] =
        [.place (CssRect.ofDevice ratio box), .setVisible true].map fun a => (tag, a) := by
      rw [h.tell, hactive]
      rfl
    have htags := tags_placed w.tag (CssRect.ofDevice ratio box) o.mounted
    dsimp only
    rw [htold]
    constructor
    · intro t ht
      have hmem : t ∈ (placed w.tag (CssRect.ofDevice ratio box) o.mounted).map Widget.tag :=
        htags ▸ h.mounted t ht
      exact hmem
    · intro t ht
      obtain rfl := Option.some.inj (hactive.symm.trans ht)
      rw [latest_log]
      exact h.bound tag hactive
    · intro t ht
      obtain rfl := Option.some.inj (hactive.symm.trans ht)
      rw [latest_log]
      rfl
    · intro t ht
      have hother : o.active ≠ some t := ht
      rw [latest_other fun heq => hother (hactive.trans (congrArg some heq))]
      exact h.hidden t hother
    · intro _
      exact congrArg Option.isSome hactive

theorem hint (h : o.OneShown told) (box : CssRect) (text : String) :
    (o.hint host box text).1.OneShown (told ++ log host (o.hint host box text).2) := by
  rw [Overlay.hint]
  dsimp only
  split
  · exact h.tellQuiet rfl rfl id (List.forall_mem_singleton.2 rfl)
  · exact h.still rfl rfl id (List.forall_mem_nil _)

theorem operation (h : o.OneShown told) (op : OverlayOperation) :
    (op.run host o).1.OneShown (told ++ log host (op.run host o).2) := by
  cases op with
  | attach ratio json => exact h.attach ratio json
  | configure mode => exact h.tellQuiet rfl rfl id (List.forall_mem_singleton.2 rfl)
  | prepare ratio box => exact h.prepare ratio box
  | start ratio field =>
    refine h.tellQuiet rfl rfl id ?_
    simp [WidgetAction.isQuiet]
  | update content => exact h.tellQuiet rfl rfl id (List.forall_mem_singleton.2 rfl)
  | finish => exact h.tellQuiet rfl rfl nofun (List.forall_mem_singleton.2 rfl)
  | hint box text => exact h.hint box text
  | reset => exact h.unbound

end OneShown

section Making

variable (host o)

theorem bind_tags (tag : String) (binding : Json) : (o.bind host tag binding).2.1.tags = o.tags := by
  rw [Overlay.bind]
  split <;> rfl

theorem mount_tags (tag : String) (binding : Json) :
    (o.mount host tag binding).2.1.tags =
      ((if o.mounted.any (·.tag = tag) then none else some tag).filter host.makes).toList ++ o.tags := by
  rw [Overlay.mount]
  split
  next => exact bind_tags host o tag binding
  next =>
    rw [Option.filter_some, WidgetHost.makes]
    split
    next hcreate => rw [hcreate]; rfl
    next hcreate => rw [hcreate]; rfl
    next hcreate =>
      rw [hcreate]
      exact bind_tags host _ tag binding

theorem run_tags (op : OverlayOperation) :
    (op.run host o).1.tags = (op.makes? host o).toList ++ o.tags := by
  cases op with
  | attach ratio json =>
    rw [OverlayOperation.run, Overlay.attach, OverlayOperation.makes?, OverlayOperation.asksFor?]
    cases Json.parse? json with
    | none => rfl
    | some binding => exact mount_tags host o.unbound _ _
  | prepare ratio box =>
    rw [OverlayOperation.run, Overlay.prepare]
    split
    next => rfl
    next w _ => exact OneShown.tags_placed w.tag (CssRect.ofDevice ratio box) o.mounted
  | hint box text =>
    rw [OverlayOperation.run, Overlay.hint]
    dsimp only
    split <;> rfl
  | configure | start | update | finish | reset => rfl

theorem makes?_fresh {op : OverlayOperation} (h : op.makes? host o = some tag) : tag ∉ o.tags := by
  obtain ⟨hasks, -⟩ := Option.filter_eq_some_iff.1 h
  cases op with
  | attach ratio json =>
    obtain ⟨binding, -, htag⟩ := Option.bind_eq_some_iff.1 hasks
    dsimp only at htag
    split at htag
    next => cases htag
    next hfree =>
      obtain rfl := Option.some.inj htag
      rw [mem_tags_iff]
      exact hfree
  | _ => cases hasks

theorem mount_congr {host' : WidgetHost} (tag : String) (hattach : host.attach = host'.attach)
    (binding : Json) (hcreate : o.mounted.any (·.tag = tag) = false → host.create tag = host'.create tag) :
    o.mount host tag binding = o.mount host' tag binding := by
  have hbind : ∀ o' : Overlay, o'.bind host tag binding = o'.bind host' tag binding := by
    intro o'
    rw [Overlay.bind, Overlay.bind, hattach]
  rw [Overlay.mount, Overlay.mount]
  cases hmounted : o.mounted.any (·.tag = tag) with
  | true => exact hbind o
  | false =>
    rw [hcreate hmounted]
    simp only [hbind]

theorem run_congr {host' : WidgetHost} (op : OverlayOperation) (hattach : host.attach = host'.attach)
    (hbounds : host.bounds = host'.bounds)
    (hcreate : ∀ tag, op.asksFor? o = some tag → host.create tag = host'.create tag) :
    op.run host o = op.run host' o := by
  cases op with
  | attach ratio json =>
    rw [OverlayOperation.run, OverlayOperation.run, Overlay.attach, Overlay.attach]
    cases hparse : Json.parse? json with
    | none => rfl
    | some binding =>
      let tag := (EditorBinding.widgetTag? binding).getD o.defaultTag
      have hmount : ∀ scaled, o.unbound.mount host tag scaled = o.unbound.mount host' tag scaled := by
        intro scaled
        apply mount_congr host o.unbound _ hattach
        intro hfree
        apply hcreate
        rw [OverlayOperation.asksFor?, hparse]
        exact if_neg (Bool.eq_false_iff.1 hfree)
      exact congrArg (fun step => (step.2.1, o.reset.2 ++ step.2.2)) (hmount _)
  | hint box text =>
    rw [OverlayOperation.run, OverlayOperation.run, Overlay.hint, Overlay.hint, bounds?, bounds?, hbounds]
  | configure | prepare | start | update | finish | reset => rfl

end Making

section Failing

variable {binding : Json}

theorem bind_refused (h : (o.bind host tag binding).1.isSome = true) :
    (o.bind host tag binding).2 = (o, [.attach binding, .detach].map fun a => (tag, a)) := by
  rw [Overlay.bind] at h ⊢
  split
  next => rfl
  next hok =>
    rw [hok] at h
    cases h

/-- A binding that fails changes at most which widgets are mounted. -/
theorem mount_failed (h : (o.mount host tag binding).1.isSome = true) :
    ∃ mounted actions, (o.mount host tag binding).2 =
        ({ o with mounted }, actions.map fun a => (tag, a)) ∧
      (actions = [] ∨ actions = [.attach binding, .detach]) := by
  rw [Overlay.mount] at h ⊢
  split at h
  next hmounted =>
    rw [if_pos hmounted]
    exact ⟨o.mounted, _, bind_refused h, .inr rfl⟩
  next hfree =>
    rw [if_neg hfree]
    split at h
    · exact ⟨o.mounted, [], rfl, .inl rfl⟩
    · exact ⟨o.mounted, [], rfl, .inl rfl⟩
    · exact ⟨⟨tag, none⟩ :: o.mounted, _, bind_refused h, .inr rfl⟩

/-- The widget that was active is detached and hidden, also where it refuses the new binding. -/
theorem attach_failed (hshown : o.OneShown told) {ratio : Float} {json : String}
    (h : (o.attach host ratio json).1.isSome = true) :
    let step := (o.attach host ratio json).2
    (step.1.active = none ∧ step.1.binding = EditorBinding.empty ∧ step.1.visible = false) ∧
      ∀ active, o.active = some active →
        latest holds? active (log host step.2) = some false ∧
          latest shown? active (log host step.2) = some false := by
  have hreset : ∀ active, o.active = some active →
      latest holds? active (log host o.reset.2) = some false ∧
        latest shown? active (log host o.reset.2) = some false := by
    intro active hactive
    rw [Overlay.reset, hshown.tell, hactive, Option.elim_some, ← List.nil_append (log host _), latest_log,
      latest_log]
    exact ⟨rfl, rfl⟩
  rw [Overlay.attach] at h ⊢
  cases hparse : Json.parse? json with
  | none => exact ⟨⟨rfl, rfl, rfl⟩, hreset⟩
  | some binding =>
    rw [hparse] at h
    obtain ⟨mounted, actions, hstep, hactions⟩ := mount_failed h
    have hstate := congrArg Prod.fst hstep
    have htold := congrArg Prod.snd hstep
    refine ⟨⟨congrArg Overlay.active hstate, congrArg Overlay.binding hstate,
      congrArg Overlay.visible hstate⟩, fun active hactive => ?_⟩
    obtain ⟨hholds, hvisible⟩ := hreset active hactive
    dsimp only at htold ⊢
    rw [htold, log_append]
    generalize (EditorBinding.widgetTag? binding).getD o.reset.1.defaultTag = asked
    obtain rfl | rfl := hactions
    · simpa [log] using ⟨hholds, hvisible⟩
    · by_cases htag : asked = active
      · subst htag
        rw [latest_log, latest_log]
        exact ⟨rfl, hvisible⟩
      · rw [latest_other htag, latest_other htag]
        exact ⟨hholds, hvisible⟩

end Failing

end Overlay

namespace OverlayHistory

open Told

variable {x : OverlayHistory}

/-- What holds after every run: at most one widget is shown, and what was made is what is mounted. -/
structure Sound (x : OverlayHistory) : Prop where
  shown : x.overlay.OneShown x.told
  made : x.made = x.overlay.tags
  once : x.made.Nodup

namespace Sound

theorem initial (defaultTag : String) : (OverlayHistory.initial defaultTag).Sound :=
  ⟨Overlay.OneShown.initial defaultTag, rfl, List.nodup_nil⟩

theorem next (h : x.Sound) (host : WidgetHost) (op : OverlayOperation) : (x.next host op).Sound where
  shown := h.shown.operation op
  made := by
    rw [OverlayHistory.next, Overlay.run_tags, h.made]
  once := by
    rw [OverlayHistory.next]
    cases hmakes : op.makes? host x.overlay with
    | none => exact h.once
    | some tag =>
      exact List.nodup_cons.2 ⟨h.made ▸ Overlay.makes?_fresh host x.overlay hmakes, h.once⟩

theorem after (defaultTag : String) (ops : List (WidgetHost × OverlayOperation)) :
    (OverlayHistory.after defaultTag ops).Sound := by
  have hrun : ∀ x : OverlayHistory, x.Sound →
      (ops.foldl (fun x (host, op) => x.next host op) x).Sound := by
    induction ops with
    | nil => exact fun _ h => h
    | cons op ops ih => exact fun x h => ih _ (h.next op.1 op.2)
  exact hrun _ (initial defaultTag)

end Sound

/-- The active widget has taken its last binding and is shown, no other one is, and none was made twice. -/
theorem one_widget_at_a_time (defaultTag : String) (ops : List (WidgetHost × OverlayOperation)) :
    let x := after defaultTag ops
    (∀ tag, x.overlay.active = some tag →
      tag ∈ x.made ∧ latest bound? tag x.told = some true ∧ latest shown? tag x.told = some true) ∧
    (∀ tag ∈ x.made, x.overlay.active ≠ some tag →
      latest shown? tag x.told = none ∨ latest shown? tag x.told = some false) ∧
    (x.overlay.visible = true → x.overlay.active.isSome = true) ∧
    (x.made.Nodup ∧ x.made = x.overlay.tags ∧
      ∀ (host host' : WidgetHost) (op : OverlayOperation), host.attach = host'.attach →
        host.bounds = host'.bounds →
        (∀ tag, op.asksFor? x.overlay = some tag → host.create tag = host'.create tag) →
        op.run host x.overlay = op.run host' x.overlay) ∧
    ∀ (host : WidgetHost) (ratio : Float) (json : String),
      let attempt := x.overlay.attach host ratio json
      attempt.1.isSome = true →
        attempt.2.1.active = none ∧ attempt.2.1.binding = EditorBinding.empty ∧
        attempt.2.1.visible = false ∧
        ∀ tag, x.overlay.active = some tag →
          latest holds? tag (log host attempt.2.2) = some false ∧
            latest shown? tag (log host attempt.2.2) = some false := by
  intro x
  have h : x.Sound := Sound.after defaultTag ops
  refine ⟨fun tag hactive => ?_, fun tag _ hother => ?_, h.shown.visible, ?_, ?_⟩
  · exact ⟨h.made ▸ h.shown.mounted tag hactive, h.shown.bound tag hactive, h.shown.shown tag hactive⟩
  · have hhidden := h.shown.hidden tag hother
    cases hlatest : latest shown? tag x.told with
    | none => exact .inl rfl
    | some visible =>
      cases visible with
      | false => exact .inr rfl
      | true => exact (hhidden hlatest).elim
  · exact ⟨h.once, h.made, fun host _ op => Overlay.run_congr host x.overlay op⟩
  · intro host ratio json attempt hfailed
    obtain ⟨⟨hactive, hbinding, hvisible⟩, htold⟩ := Overlay.attach_failed h.shown hfailed
    exact ⟨hactive, hbinding, hvisible, htold⟩

/-- Makes every widget. Only bindings of one widget can be refused. -/
private def hostRefusing (refused : Option String) : WidgetHost where
  create _ := some (.ok ())
  attach tag _ := if refused = some tag then .error "busy" else .ok ()
  bounds _ box := box

private def dateBinding : String :=
  "\x7b\"binding\":\x7b\"widget\":\x7b\"tag\":\"date\"\x7d\x7d\x7d"

theorem one_widget_at_a_time_refused :
    let x := after "text" [(hostRefusing none, .attach 1 "\x7b\x7d")]
    let host := hostRefusing (some "date")
    let attempt := x.overlay.attach host 1 dateBinding
    (x.overlay.active = some "text" ∧ latest shown? "text" x.told = some true) ∧
      (attempt.1.isSome = true ∧ attempt.2.1.active = none) ∧
      latest holds? "text" (log host attempt.2.2) = some false ∧
        latest shown? "text" (log host attempt.2.2) = some false := by
  have h := one_widget_at_a_time "text" [(hostRefusing none, .attach 1 "\x7b\x7d")]
  obtain ⟨hactive, -, -, -, hfailed⟩ := h
  have htext : (after "text" [(hostRefusing none, .attach 1 "\x7b\x7d")]).overlay.active = some "text" := rfl
  obtain ⟨hnone, -, -, htold⟩ := hfailed (hostRefusing (some "date")) 1 dateBinding
    (by decide +kernel)
  exact ⟨⟨htext, (hactive "text" htext).2.2⟩, ⟨by decide +kernel, hnone⟩, htold "text" htext⟩

end OverlayHistory

end BandCanvas
