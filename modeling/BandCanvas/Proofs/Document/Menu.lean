import BandCanvas.Proofs.Band.Lookup
import BandCanvas.Proofs.Document.Operation
import BandCanvas.Proofs.Document.Response

namespace BandCanvas

namespace Effect

def menu? : Effect → Option (Option Int)
  | event (.menuShown id _ _) => some (some id)
  | event .menuHidden => some none
  | _ => none

/-- The band that the menu belongs to after effects, going by what they tell. -/
def menuAfter (menu : Option Int) (es : List Effect) : Option Int :=
  es.foldl (fun menu e => e.menu?.getD menu) menu

theorem menu?_of_draws {e : Effect} (h : e.draws = true) : e.menu? = none := by
  cases e with
  | event => cases h
  | _ => rfl

theorem menu?_of_isPaging {e : Effect} (h : e.isPaging = true) : e.menu? = none := by
  unfold isPaging at h
  split at h
  · rfl
  · rfl
  · rfl
  · cases h

theorem menu?_calls {cs : List CanvasCall} : ∀ e ∈ calls cs, e.menu? = none :=
  fun e he => menu?_of_draws (draws_of_mem_calls e he)

theorem menu?_widgets {as : List (String × WidgetAction)} : ∀ e ∈ widgets as, e.menu? = none := by
  intro e he
  obtain ⟨a, _, rfl⟩ := List.mem_map.1 he
  rfl

theorem menu?_complaint (e : Option BindingError) :
    ∀ x ∈ ofEvent? (e.map fun e => .bindingError e.message), x.menu? = none := by
  cases e with
  | none => exact List.forall_mem_nil _
  | some e => exact List.forall_mem_singleton.2 rfl

end Effect

/-- Effects that bring the menu from one band to another, telling of each change once. -/
inductive MenuPath : Option Int → List Effect → Option Int → Prop
  | refl (menu : Option Int) : MenuPath menu [] menu
  | other {menu menu' : Option Int} {e : Effect} {es : List Effect} (h : e.menu? = none) :
    MenuPath menu es menu' → MenuPath menu (e :: es) menu'
  | shown {menu menu' : Option Int} {id : Int} {x y : Float} {es : List Effect} (h : menu ≠ some id) :
    MenuPath (some id) es menu' → MenuPath menu (.event (.menuShown id x y) :: es) menu'
  | hidden {menu' : Option Int} {id : Int} {es : List Effect} :
    MenuPath none es menu' → MenuPath (some id) (.event .menuHidden :: es) menu'

namespace MenuPath

open Effect

variable {menu menu' menu'' : Option Int} {es es' pre post : List Effect} {id : Int} {x y : Float}

theorem silent (h : ∀ e ∈ es, e.menu? = none) : MenuPath menu es menu := by
  induction es with
  | nil => exact .refl menu
  | cons e es ih =>
    obtain ⟨he, hes⟩ := List.forall_mem_cons.1 h
    exact .other he (ih hes)

theorem append (h : MenuPath menu es menu') (h' : MenuPath menu' es' menu'') :
    MenuPath menu (es ++ es') menu'' := by
  induction h with
  | refl => exact h'
  | other he _ ih => exact .other he (ih h')
  | shown hne _ ih => exact .shown hne (ih h')
  | hidden _ ih => exact .hidden (ih h')

theorem menuAfter_eq (h : MenuPath menu es menu') : menuAfter menu es = menu' := by
  induction h with
  | refl => rfl
  | other he _ ih =>
    rw [menuAfter, List.foldl_cons, he]
    exact ih
  | shown _ _ ih => exact ih
  | hidden _ ih => exact ih

theorem split (h : MenuPath menu (pre ++ post) menu') : MenuPath (menuAfter menu pre) post menu' := by
  induction pre generalizing menu with
  | nil => exact h
  | cons e pre ih =>
    cases h with
    | other he hrest =>
      rw [menuAfter, List.foldl_cons, he]
      exact ih hrest
    | shown _ hrest => exact ih hrest
    | hidden hrest => exact ih hrest

theorem of_hidden (h : MenuPath menu (.event .menuHidden :: es) menu') : menu.isSome = true := by
  cases h with
  | other he => cases he
  | hidden => rfl

theorem of_shown (h : MenuPath menu (.event (.menuShown id x y) :: es) menu') :
    menu ≠ some id ∧ MenuPath (some id) es menu' := by
  cases h with
  | other he => cases he
  | shown hne hrest => exact ⟨hne, hrest⟩

theorem ne_of_shown {id' : Int} {x' y' : Float} {between : List Effect}
    (h : MenuPath menu (pre ++ .event (.menuShown id x y) ::
      (between ++ .event (.menuShown id' x' y') :: post)) menu')
    (hbetween : ∀ e ∈ between, e.menu? = none) : id ≠ id' := by
  obtain ⟨-, hafter⟩ := h.split.of_shown
  obtain ⟨hne, -⟩ := hafter.split.of_shown
  rw [(silent hbetween).menuAfter_eq] at hne
  exact fun heq => hne (congrArg some heq)

end MenuPath

/-- A line that may have a menu. -/
def Band.isDetail (b : Band) : Bool :=
  b.kind == Document.detailKind && b.editable

namespace Document

/-- The menu belongs to a stored band of a document that can be edited. -/
def MenuStored (d : Document) : Prop :=
  ∀ id, d.menuBand = some id → d.editable = true ∧ ∃ b ∈ d.bands.bands, b.id = id

/-- What a document says tells where it moves the menu, and this is to a stored band. -/
structure MenuTold (d : Document) (o : Outcome) : Prop where
  path : MenuPath d.menuBand o.effects o.document.menuBand
  stored : d.MenuStored → o.document.MenuStored

namespace MenuTold

variable {d : Document} {o o' : Outcome}

theorem trans (h : d.MenuTold o) (h' : o.document.MenuTold o') :
    d.MenuTold ⟨o'.document, o.effects ++ o'.effects⟩ :=
  ⟨h.path.append h'.path, fun hd => h'.stored (h.stored hd)⟩

theorem still (hmenu : o.document.menuBand = d.menuBand) (heditable : o.document.editable = d.editable)
    (hbands : ∀ b ∈ d.bands.bands, ∃ b' ∈ o.document.bands.bands, b'.id = b.id)
    (hsilent : ∀ e ∈ o.effects, e.menu? = none) : d.MenuTold o where
  path := by
    rw [hmenu]
    exact .silent hsilent
  stored hd id hid := by
    obtain ⟨hedit, b, hb, rfl⟩ := hd id (hmenu ▸ hid)
    exact ⟨heditable.trans hedit, hbands b hb⟩

theorem aside (hmenu : o.document.menuBand = d.menuBand) (heditable : o.document.editable = d.editable)
    (hbands : o.document.bands = d.bands) (hsilent : ∀ e ∈ o.effects, e.menu? = none) : d.MenuTold o :=
  still hmenu heditable (fun b hb => ⟨b, hbands ▸ hb, rfl⟩) hsilent

theorem gone (hmenu : o.document.menuBand = none) (hpath : MenuPath d.menuBand o.effects none) :
    d.MenuTold o where
  path := hmenu ▸ hpath
  stored _ _ hid := nomatch hmenu ▸ hid

end MenuTold

variable {host : WidgetHost} {d : Document} {o : Outcome} {y : Float} {b : Band}

theorem mem_of_menuTarget (h : d.menuTarget? y = some b) : b ∈ d.bands.bands ∧ b.isDetail = true := by
  obtain ⟨hfound, hdetail⟩ := Option.filter_eq_some_iff.1 h
  exact ⟨BandStore.mem_of_findAtY? hfound, hdetail⟩

theorem exists_id_upsert (b a : Band) (s : BandStore) (ha : a ∈ s.bands) :
    ∃ a' ∈ (s.upsert b).bands, a'.id = a.id := by
  by_cases h : a.id = b.id
  · exact ⟨b, BandStore.mem_upsert_self b s, h.symm⟩
  · exact ⟨a, BandStore.mem_upsert_of_ne ha h, rfl⟩

theorem repaint_silent (d : Document) : ∀ e ∈ d.repaint.effects, e.menu? = none :=
  fun e he => Effect.menu?_of_draws (d.repaint_draws.draws d.images e he)

theorem defineBand_silent (source : String) (position : Nat) (b : BandHeader) (d : Document) :
    ∀ e ∈ (d.defineBand source position b).effects, e.menu? = none := by
  rw [defineBand]
  dsimp only
  split
  · exact List.forall_mem_singleton.2 rfl
  · exact List.forall_mem_nil _

theorem repaint_menu (d : Document) : d.MenuTold d.repaint :=
  .aside rfl rfl rfl d.repaint_silent

/-- Everything that a document does by itself moves the menu as it tells. -/
theorem Response.menu (h : Response host d o) : d.MenuTold o := by
  induction h with
  | quiet d => exact .aside rfl rfl rfl (List.forall_mem_nil _)
  | andThen _ _ ih ih' => exact ih.trans ih'
  | clear d => exact .aside rfl rfl rfl Effect.menu?_calls
  | restyle d => exact .aside rfl rfl rfl Effect.menu?_calls
  | draw d p k =>
    exact .aside rfl rfl rfl fun e he => Effect.menu?_of_draws (d.drawLive_draws p k e he)
  | repaint d => exact d.repaint_menu
  | define d source position b =>
    exact .still rfl rfl (fun a ha => exists_id_upsert _ a d.bands ha) (d.defineBand_silent source position b)
  | @drop d hnone =>
    apply MenuTold.gone hnone
    rw [hnone]
    exact .refl none
  | pend | measure => exact .aside rfl rfl rfl (List.forall_mem_nil _)
  | @hide d id hmenu =>
    apply MenuTold.gone rfl
    rw [hmenu]
    exact .hidden (.refl none)
  | @«show» d y b heditable hb hne =>
    refine ⟨.shown hne (.refl _), fun _ id hid => ?_⟩
    obtain rfl := Option.some.inj hid
    exact ⟨heditable, b, (mem_of_menuTarget hb).1, rfl⟩
  | overlay => exact .aside rfl rfl rfl Effect.menu?_widgets
  | complain d e =>
    exact .aside rfl rfl rfl (Effect.menu?_complaint e)
  | scroll => exact .aside rfl rfl rfl (List.forall_mem_singleton.2 rfl)
  | page d number count =>
    exact .aside rfl rfl rfl fun e he =>
      Effect.menu?_of_isPaging ((d.paging.setChapterPage_reports number count).2 e he)
  | pageCount d count =>
    exact .aside rfl rfl rfl fun e he =>
      Effect.menu?_of_isPaging ((d.paging.updatePageCount_reports count).2 e he)
  | pageNumber d number =>
    exact .aside rfl rfl rfl fun e he =>
      Effect.menu?_of_isPaging ((d.paging.updatePageNumber_reports number).2 e he)

theorem hideMenu_path (d : Document) : MenuPath d.menuBand d.hideMenu.effects none := by
  rw [hideMenu]
  split
  next hmenu =>
    rw [hmenu]
    exact .hidden (.refl none)
  next hmenu =>
    rw [hmenu]
    exact .refl none

theorem hideMenu_menuBand (d : Document) : d.hideMenu.document.menuBand = none := by
  rw [hideMenu_document]

theorem setEditable_menu (editable : Bool) (d : Document) : d.MenuTold (d.setEditable editable) := by
  cases editable with
  | true =>
    refine ⟨.refl _, fun hd id hid => ?_⟩
    obtain ⟨-, hstored⟩ := hd id hid
    exact ⟨rfl, hstored⟩
  | false => exact .gone (hideMenu_menuBand _) (hideMenu_path { d with editable := false })

theorem reset_menu (d : Document) : d.MenuTold d.reset := by
  rw [reset_eq]
  apply MenuTold.gone rfl
  rw [List.append_assoc]
  apply d.hideMenu_path.append
  refine .silent (List.forall_mem_append.2 ⟨Effect.menu?_widgets, List.forall_mem_cons.2 ⟨rfl, ?_⟩⟩)
  exact Effect.menu?_calls

theorem operation_menu (op : DocumentOperation) (d : Document) : d.MenuTold (op.run host d) := by
  cases op with
  | message text => exact (d.handleMessage_response host text).menu
  | paint commands => exact (d.live_response host _).menu
  | repaint => exact d.repaint_menu
  | tick now loads =>
    rw [DocumentOperation.run]
    obtain ⟨timer, -, htick | htick⟩ := tick_cases now loads d
    · rw [htick]
      obtain ⟨hpath, hstored⟩ := repaint_menu { d with images := (completeLoads loads d.images).2, timer }
      exact ⟨hpath, hstored⟩
    · rw [htick]
      exact .aside rfl rfl rfl (List.forall_mem_nil _)
  | fontsLoaded | background | viewport | paging => exact .aside rfl rfl rfl (List.forall_mem_nil _)
  | pointer y => exact (d.pointerMoved_response host y).menu
  | zoom | page => exact .aside rfl rfl rfl Effect.menu?_calls
  | editable editable => exact d.setEditable_menu editable
  | reset => exact d.reset_menu

theorem course_menu (ops : List (WidgetHost × DocumentOperation)) (d : Document) :
    d.MenuTold (d.course ops) := by
  induction ops generalizing d with
  | nil => exact .aside rfl rfl rfl (List.forall_mem_nil _)
  | cons op ops ih => exact (operation_menu op.2 d).trans (ih (op.2.run op.1 d).document)

theorem create_menu (options : DocumentOptions) :
    MenuPath none (create options).effects (create options).document.menuBand ∧
      (create options).document.MenuStored :=
  ⟨.silent Effect.menu?_calls, fun _ hid => nomatch hid⟩

/-- The events of a run tell which band the menu belongs to. -/
theorem menu_events_tell (options : DocumentOptions) (ops : List (WidgetHost × DocumentOperation)) :
    let o := (create options).andThen fun d => d.course ops
    Effect.menuAfter none o.effects = o.document.menuBand ∧
    (∀ pre post, o.effects = pre ++ .event .menuHidden :: post →
      (Effect.menuAfter none pre).isSome = true) ∧
    (∀ pre id x y between id' x' y' post,
      o.effects = pre ++ .event (.menuShown id x y) ::
        (between ++ .event (.menuShown id' x' y') :: post) →
      (∀ e ∈ between, e.menu? = none) → id ≠ id') ∧
    ∀ id, o.document.menuBand = some id →
      o.document.editable = true ∧ ∃ b ∈ o.document.bands.bands, b.id = id := by
  intro o
  obtain ⟨hcreate, hstored⟩ := create_menu options
  have hcourse := course_menu ops (create options).document
  have hpath : MenuPath none o.effects o.document.menuBand := hcreate.append hcourse.path
  refine ⟨hpath.menuAfter_eq, ?_, ?_, hcourse.stored hstored⟩
  · intro pre post heffects
    rw [heffects] at hpath
    exact hpath.split.of_hidden
  · intro pre id x y between id' x' y' post heffects hbetween
    rw [heffects] at hpath
    exact hpath.ne_of_shown hbetween

end Document

end BandCanvas
