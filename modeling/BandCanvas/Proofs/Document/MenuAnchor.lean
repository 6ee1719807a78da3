import BandCanvas.Proofs.Document.MenuLine
import BandCanvas.Proofs.Document.PageSize

namespace BandCanvas

namespace Effect

def anchor? : Effect → Option (Float × Float)
  | event (.menuShown _ x y) => some (x, y)
  | _ => none

/-- The place that the menu was shown at last. -/
def lastAnchor? (es : List Effect) : Option (Float × Float) :=
  (es.filterMap anchor?).getLast?

theorem lastAnchor?_append (es es' : List Effect) :
    lastAnchor? (es ++ es') = (lastAnchor? es').or (lastAnchor? es) := by
  rw [lastAnchor?, List.filterMap_append, List.getLast?_append]
  rfl

theorem anchor?_of_menu? {e : Effect} (h : e.menu? = none) : e.anchor? = none := by
  unfold anchor?
  split
  · cases h
  · rfl

theorem lastAnchor?_silent {es : List Effect} (h : ∀ e ∈ es, e.menu? = none) : lastAnchor? es = none := by
  have hnone : es.filterMap anchor? = [] :=
    List.filterMap_eq_nil_iff.2 fun e he => anchor?_of_menu? (h e he)
  rw [lastAnchor?, hnone]
  rfl

end Effect

namespace Document

open Effect

/-- The menu is left where it is, or hidden. -/
inductive LeavesMenu (d : Document) (o : Outcome) : Prop
  | stays (hmenu : o.document.menuBand = d.menuBand) (hsilent : ∀ e ∈ o.effects, e.menu? = none)
  | hidden (hgone : o.document.menuBand = none)

/-- The menu is left or hidden, or ends at a stored band that it comes to, shown at the place of this band. -/
inductive TurnsMenu (d : Document) (o : Outcome) : Prop
  | leaves (h : d.LeavesMenu o)
  | comes (b : Band) (hmenu : o.document.menuBand = some b.id)
    (hstored : o.document.bands.find? b.id = some b)
    (hshown : lastAnchor? o.effects = some (o.document.menuPlace b))

section Turns

variable {host : WidgetHost} {d : Document} {o o' : Outcome}

theorem LeavesMenu.andThen (h : d.LeavesMenu o) (h' : o.document.TurnsMenu o') :
    d.TurnsMenu ⟨o'.document, o.effects ++ o'.effects⟩ := by
  cases h' with
  | leaves h' =>
    apply TurnsMenu.leaves
    cases h' with
    | stays hmenu' hsilent' =>
      cases h with
      | stays hmenu hsilent => exact .stays (hmenu'.trans hmenu) (List.forall_mem_append.2 ⟨hsilent, hsilent'⟩)
      | hidden hgone => exact .hidden (hmenu'.trans hgone)
    | hidden hgone => exact .hidden hgone
  | comes b hmenu hstored hshown =>
    have hlast : lastAnchor? (o.effects ++ o'.effects) = some (o'.document.menuPlace b) := by
      rw [lastAnchor?_append, hshown]
      rfl
    exact .comes b hmenu hstored hlast

theorem TurnsMenu.stays (hmenu : o.document.menuBand = d.menuBand)
    (hsilent : ∀ e ∈ o.effects, e.menu? = none) : d.TurnsMenu o :=
  .leaves (.stays hmenu hsilent)

theorem TurnsMenu.pend (h : d.TurnsMenu o) (f : Option Fragment) :
    d.TurnsMenu (o.update fun d => { d with pending := f }) := by
  cases h with
  | leaves h =>
    cases h with
    | stays hmenu hsilent => exact .stays hmenu hsilent
    | hidden hgone => exact .leaves (.hidden hgone)
  | comes b hmenu hstored hshown => exact .comes b hmenu hstored hshown

theorem leavesMenu_quiet (d : Document) : d.LeavesMenu d.quiet :=
  .stays rfl (List.forall_mem_nil _)

theorem leavesMenu_hideMenu (d : Document) : d.LeavesMenu d.hideMenu :=
  .hidden d.hideMenu_menuBand

theorem updateMenu_turns (y : Float) (d : Document) : d.TurnsMenu (d.updateMenu y) := by
  rw [updateMenu]
  split
  next =>
    split
    next => exact .leaves d.leavesMenu_hideMenu
    next b htarget =>
      split
      next => exact .leaves d.leavesMenu_quiet
      next =>
        obtain ⟨hb, -⟩ := mem_of_menuTarget htarget
        exact .comes b rfl (BandStore.find?_eq_some_iff.2 ⟨hb, rfl⟩) rfl
  next => exact .leaves d.leavesMenu_hideMenu

variable (host d) (source : String) (position : Nat) (p : LivePass)

theorem edit_leavesMenu (e : EditorCommand) : d.LeavesMenu (d.edit host e) := by
  cases e with
  | attach json =>
    exact .stays rfl (List.forall_mem_append.2 ⟨menu?_widgets, menu?_complaint _⟩)
  | start field =>
    exact .stays (adjustScroll_menuBand host _)
      (List.forall_mem_append.2 ⟨menu?_widgets, adjustScroll_silent host _⟩)
  | configure | update | finish | hint => exact .stays rfl menu?_widgets
  | prepare | debugBox | other => exact d.leavesMenu_quiet

theorem drawLive_leavesMenu (k : Command) : d.LeavesMenu (d.drawLive p k).1 :=
  .stays rfl fun e he => menu?_of_draws (d.drawLive_draws p k e he)

theorem perform_leavesMenu {k : Command} (hk : k.endsPass = false) :
    d.LeavesMenu (d.perform host source position p k).1 := by
  have hdraw := d.drawLive_leavesMenu p k
  cases k with
  | reset hard => cases hard <;> exact .hidden d.hideMenu_menuBand
  | update => cases hk
  | band b => exact .stays rfl (d.defineBand_silent source position b)
  | grid major minor => exact .stays rfl (List.forall_mem_nil _)
  | page number count =>
    have hpaging := (d.paging.setChapterPage_reports number count).2
    exact .stays rfl fun e he => menu?_of_isPaging (hpaging e he)
  | editor e =>
    have hedit := d.edit_leavesMenu host e
    cases e with
    | prepare box => cases hk
    | debugBox r => exact hdraw
    | _ => exact hedit
  | _ => exact hdraw

theorem prepareEditor_turns (box : DeviceRect) :
    d.TurnsMenu (d.prepareEditor source position box) := by
  have hplaced : d.LeavesMenu (d.withOverlay (d.overlay.prepare d.ratio box)) :=
    .stays rfl menu?_widgets
  exact (hplaced.andThen (updateMenu_turns (box.y + box.height / 2) _)).pend _

theorem perform_turns (k : Command) : d.TurnsMenu (d.perform host source position p k).1 := by
  cases hk : k.endsPass with
  | false => exact .leaves (d.perform_leavesMenu host source position p hk)
  | true =>
    cases k with
    | update =>
      rw [perform]
      dsimp only
      split
      · exact .leaves d.leavesMenu_quiet
      · exact .stays rfl d.repaint_silent
    | editor e =>
      cases e with
      | prepare box => exact d.prepareEditor_turns source position box
      | _ => cases hk
    | _ => cases hk

/-- Only the command that ends a pass can bring the menu to a band. -/
theorem runSteps_turns (xs : List Step) : d.TurnsMenu (runSteps host source xs p d).1 := by
  induction xs generalizing p d with
  | nil => exact .leaves d.leavesMenu_quiet
  | cons x xs ih =>
    obtain ⟨r, c⟩ := x
    cases r with
    | error e => exact ih d p
    | ok k =>
      rcases perform_cases host source c.offset p d k with ⟨-, o, ho⟩ | ⟨hk, o, p', ho⟩
      · have hstep := d.perform_turns host source c.offset p k
        rw [ho] at hstep
        rw [runSteps_stop ho]
        exact hstep
      · have hstep := d.perform_leavesMenu host source c.offset p hk
        rw [ho] at hstep
        rw [runSteps_go ho]
        exact hstep.andThen (ih o.document p')

theorem live_turns (f : Fragment) : d.TurnsMenu (d.live host f) := by
  have hstyled : d.LeavesMenu ⟨d, Effect.calls PaintState.initial.styleCalls⟩ :=
    .stays rfl menu?_calls
  rw [live_eq_runSteps]
  exact hstyled.andThen (d.runSteps_turns host f.source LivePass.initial f.decoded)

theorem handleMessage_turns (text : String) : d.TurnsMenu (d.handleMessage host text) := by
  rw [handleMessage]
  split
  · exact d.live_turns host _
  next json _ =>
    cases Notification.parse? (String.ofList json) with
    | none => exact .leaves d.leavesMenu_quiet
    | some n => exact .stays (notify_page n d).2 (d.notify_silent n)
  · exact .leaves d.leavesMenu_quiet

theorem operation_turns (op : DocumentOperation) : d.TurnsMenu (op.run host d) := by
  cases op with
  | message text => exact d.handleMessage_turns host text
  | paint commands => exact d.live_turns host _
  | repaint => exact .stays rfl d.repaint_silent
  | tick now loads =>
    rw [DocumentOperation.run]
    obtain ⟨timer, -, htick | htick⟩ := tick_cases now loads d
    · rw [htick]
      exact .stays rfl (repaint_silent _)
    · rw [htick]
      exact .stays rfl (List.forall_mem_nil _)
  | fontsLoaded | background | viewport | paging => exact .stays rfl (List.forall_mem_nil _)
  | pointer y =>
    rw [DocumentOperation.run, pointerMoved]
    split
    · exact updateMenu_turns _ d
    · exact .leaves d.leavesMenu_quiet
  | zoom | page => exact .stays rfl menu?_calls
  | editable editable =>
    cases editable with
    | true => exact .stays rfl (List.forall_mem_nil _)
    | false => exact .leaves (.hidden (hideMenu_menuBand { d with editable := false }))
  | reset => exact .leaves (.hidden (congrArg (·.document.menuBand) d.reset_eq))

end Turns

section History

variable {options : DocumentOptions} {ops past since : List (WidgetHost × DocumentOperation)}
  {x : WidgetHost × DocumentOperation} {d : Document} {b b' : Band} {id : Int}

theorem course_append (d : Document) (ops more : List (WidgetHost × DocumentOperation)) :
    d.course (ops ++ more) = (d.course ops).andThen fun d => d.course more := by
  induction ops generalizing d with
  | nil => rfl
  | cons x ops ih =>
    show (x.2.run x.1 d).andThen (fun d => d.course (ops ++ more)) = _
    simp only [course, Outcome.andThen, ih, List.append_assoc]

theorem course_singleton (d : Document) (x : WidgetHost × DocumentOperation) :
    d.course [x] = x.2.run x.1 d := by
  show (⟨_, (x.2.run x.1 d).effects ++ []⟩ : Outcome) = _
  rw [List.append_nil]
  rfl

theorem course_find? (h : (d.course ops).document.bands.find? id = some b) :
    (Band.last? id (ops.flatMap fun x => x.2.defined)).or (d.bands.find? id) = some b := by
  induction ops generalizing d with
  | nil => exact h
  | cons x ops ih =>
    have hrest := ih h
    rw [List.flatMap_cons, Band.last?_append, Option.or_assoc]
    cases hlast : Band.last? id (ops.flatMap fun x => x.2.defined) with
    | some a =>
      rw [hlast] at hrest
      exact hrest
    | none =>
      rw [hlast] at hrest
      exact operation_find? x.2 hrest

theorem course_sameSize (hops : ∀ x ∈ ops, x.2.resizes = false) (d : Document) :
    d.SameSize (d.course ops).document := by
  induction ops generalizing d with
  | nil => exact ⟨rfl, rfl⟩
  | cons x ops ih =>
    obtain ⟨hx, hrest⟩ := List.forall_mem_cons.1 hops
    exact (operation_sameSize hx d).trans (ih hrest _)

/-- What becomes of a new document, and all that is said meanwhile. -/
def history (options : DocumentOptions) (ops : List (WidgetHost × DocumentOperation)) : Outcome :=
  (create options).andThen fun d => d.course ops

theorem history_append (ops more : List (WidgetHost × DocumentOperation)) :
    history options (ops ++ more) = (history options ops).andThen fun d => d.course more := by
  simp only [history, Outcome.andThen, course_append, List.append_assoc]

theorem history_snoc : history options (ops ++ [x]) = (history options ops).andThen (x.2.run x.1) := by
  rw [history_append]
  simp only [course_singleton]

/-- The menu came to the band `b` of the document `d` with the operation before `since`, and has stayed there. -/
structure MenuCame (options : DocumentOptions) (ops since : List (WidgetHost × DocumentOperation))
    (d : Document) (b : Band) : Prop where
  came : ∃ past x, ops = past ++ x :: since ∧ d = (history options (past ++ [x])).document ∧
    lastAnchor? (x.2.run x.1 (history options past).document).effects = some (d.menuPlace b)
  menu : d.menuBand = some b.id
  stored : d.bands.find? b.id = some b
  stays : ∀ e ∈ (d.course since).effects, e.menu? = none

theorem history_split (hops : ops = past ++ x :: since) :
    history options ops = (history options (past ++ [x])).andThen fun d => d.course since := by
  rw [hops, List.append_cons, history_append]

theorem MenuCame.history_eq (h : MenuCame options ops since d b) :
    ∃ said, history options ops = ⟨(d.course since).document, said ++ (d.course since).effects⟩ ∧
      lastAnchor? said = some (d.menuPlace b) := by
  obtain ⟨past, x, hops, hd, hshown⟩ := h.came
  have hsaid : (history options (past ++ [x])).effects =
      (history options past).effects ++ (x.2.run x.1 (history options past).document).effects :=
    congrArg Outcome.effects history_snoc
  refine ⟨(history options (past ++ [x])).effects, ?_, ?_⟩
  · rw [history_split hops, hd]
    rfl
  · rw [hsaid, lastAnchor?_append, hshown]
    rfl

theorem MenuCame.snoc (h : MenuCame options ops since d b)
    (hsilent : ∀ e ∈ (x.2.run x.1 (history options ops).document).effects, e.menu? = none) :
    MenuCame options (ops ++ [x]) (since ++ [x]) d b := by
  obtain ⟨said, heq, -⟩ := h.history_eq
  obtain ⟨⟨past, y, hops, hd, hshown⟩, hmenu, hstored, hstays⟩ := h
  refine ⟨⟨past, y, ?_, hd, hshown⟩, hmenu, hstored, ?_⟩
  · rw [hops, List.append_assoc, List.cons_append]
  · rw [heq] at hsilent
    rw [course_append, Outcome.andThen, course_singleton]
    exact List.forall_mem_append.2 ⟨hstays, hsilent⟩

theorem exists_menuCame (hid : (history options ops).document.menuBand = some id) :
    ∃ since d b, MenuCame options ops since d b ∧ b.id = id := by
  induction ops using List.reverseRecOn generalizing id with
  | nil => cases hid
  | append_singleton ops x ih =>
    rw [history_snoc] at hid
    cases operation_turns x.1 (history options ops).document x.2 with
    | leaves hleaves =>
      cases hleaves with
      | stays hmenu hsilent =>
        obtain ⟨since, d, b, hcame, hb⟩ := ih (hmenu.symm.trans hid)
        exact ⟨since ++ [x], d, b, hcame.snoc hsilent, hb⟩
      | hidden hgone => cases hgone.symm.trans hid
    | comes b hmenu hstored hshown =>
      have hlast : (history options (ops ++ [x])).document =
          (x.2.run x.1 (history options ops).document).document := by
        rw [history_snoc]
        rfl
      refine ⟨[], _, b, ⟨⟨ops, x, rfl, hlast.symm, hshown⟩, hmenu, hstored, List.forall_mem_nil _⟩, ?_⟩
      exact Option.some.inj (hmenu.symm.trans hid)

theorem MenuCame.lastAnchor?_eq (h : MenuCame options ops since d b) :
    lastAnchor? (history options ops).effects = some (d.menuPlace b) := by
  obtain ⟨said, heq, hsaid⟩ := h.history_eq
  rw [heq, lastAnchor?_append, lastAnchor?_silent h.stays, hsaid]
  rfl

theorem MenuCame.menuBand (h : MenuCame options ops since d b) :
    (history options ops).document.menuBand = some b.id := by
  obtain ⟨said, heq, -⟩ := h.history_eq
  have hpath := (course_menu since d).path.menuAfter_eq
  rw [(MenuPath.silent h.stays).menuAfter_eq] at hpath
  rw [heq, ← hpath, h.menu]

/-- The band of the menu is what was defined last since the menu came to it. -/
theorem MenuCame.find? (h : MenuCame options ops since d b) :
    (history options ops).document.bands.find? b.id =
      some ((Band.last? b.id (since.flatMap fun x => x.2.defined)).getD b) := by
  have hstored : (history options ops).document.MenuStored :=
    (course_menu ops (create options).document).stored (create_menu options).2
  obtain ⟨-, b', hb', hid⟩ := hstored b.id h.menuBand
  have hfind := BandStore.find?_eq_some_iff.2 ⟨hb', hid⟩
  obtain ⟨said, heq, -⟩ := h.history_eq
  rw [heq] at hfind ⊢
  have hlast := course_find? hfind
  rw [h.stored] at hlast
  rw [hfind, ← hlast]
  cases Band.last? b.id (since.flatMap fun x => x.2.defined) <;> rfl

/-- The menu stands at its band as long as the place of the band is what it was when the menu came. -/
theorem anchored_iff (options : DocumentOptions) (ops : List (WidgetHost × DocumentOperation)) :
    let o := history options ops
    (∀ id, o.document.menuBand = some id → ∃ since d b, MenuCame options ops since d b ∧ b.id = id) ∧
    ∀ since d b, MenuCame options ops since d b → ∃ b',
      o.document.menuBand = some b.id ∧ o.document.bands.find? b.id = some b' ∧
      b' = (Band.last? b.id (since.flatMap fun x => x.2.defined)).getD b ∧
      ((∀ x ∈ since, x.2.resizes = false) → o.document.menuPlace = d.menuPlace) ∧
      (lastAnchor? o.effects = some (o.document.menuPlace b') ↔
        d.menuPlace b = o.document.menuPlace b') := by
  intro o
  refine ⟨fun id => exists_menuCame, ?_⟩
  intro since d b h
  refine ⟨_, h.menuBand, h.find?, rfl, ?_, ?_⟩
  · intro hsize
    obtain ⟨said, heq, -⟩ := h.history_eq
    show (history options ops).document.menuPlace = _
    rw [heq]
    exact (course_sameSize hsize d).menuPlace
  · rw [h.lastAnchor?_eq]
    exact Option.some_inj

def upperLine : Band :=
  ⟨1, "DT", true, 30, 0, 100, "D:B2,DT,1,t,30,0,100;", 21⟩

def indentedLine : Band :=
  ⟨1, "DT", true, 30, 50, 100, "D:B2,DT,1,t,30,50,100;", 22⟩

def lowerLine : Band :=
  ⟨1, "DT", true, 30, 0, 200, "D:B2,DT,1,t,30,0,200;", 21⟩

def bareHost : WidgetHost :=
  ⟨fun _ => none, fun _ _ => .ok (), fun _ _ => none⟩

def lineAgain (again : Band) : List (WidgetHost × DocumentOperation) :=
  [(bareHost, .editable true), (bareHost, .message upperLine.source), (bareHost, .pointer 110),
    (bareHost, .message again.source)]

theorem anchored_iff_indented :
    let o := history DocumentOptions.standard (lineAgain indentedLine)
    o.document.bands.find? 1 = some indentedLine ∧
      lastAnchor? o.effects = some (o.document.menuPlace indentedLine) := by
  intro o
  let past := (lineAgain indentedLine).take 2
  let since : List (WidgetHost × DocumentOperation) := [(bareHost, .message indentedLine.source)]
  let d := (history DocumentOptions.standard (past ++ [(bareHost, .pointer 110)])).document
  have hcame : MenuCame DocumentOptions.standard (lineAgain indentedLine) since d upperLine := by
    refine ⟨⟨past, (bareHost, .pointer 110), rfl, rfl, ?_⟩, ?_, ?_, ?_⟩ <;> decide +kernel
  have hplain : ∀ x ∈ since, x.2.resizes = false := List.forall_mem_singleton.2 rfl
  have hindented : o.document.bands.find? 1 = some indentedLine := by decide +kernel
  obtain ⟨b, -, hfind, -, hsame, hiff⟩ :=
    (anchored_iff DocumentOptions.standard (lineAgain indentedLine)).2 since d upperLine hcame
  obtain rfl := Option.some.inj (hindented.symm.trans hfind)
  exact ⟨hindented, hiff.2 (congrFun (hsame hplain) indentedLine).symm⟩

/-- The pointer is over the line again, and the menu is left where the line was. -/
theorem not_anchored_lowered :
    ¬∀ (options : DocumentOptions) (ops : List (WidgetHost × DocumentOperation)) (host : WidgetHost)
        (y : Float) (id : Int),
      (history options ops).document.overlay.visible = false →
      (history options ops).document.scale.toDocument.isFinite = true →
      (history options (ops ++ [(host, .pointer y)])).document.menuBand = some id →
      ∃ b, (history options (ops ++ [(host, .pointer y)])).document.bands.find? id = some b ∧
        lastAnchor? (history options (ops ++ [(host, .pointer y)])).effects =
          some ((history options (ops ++ [(host, .pointer y)])).document.menuPlace b) := by
  intro hall
  let o := history DocumentOptions.standard (lineAgain lowerLine ++ [(bareHost, .pointer 210)])
  have hfind : o.document.bands.find? 1 = some lowerLine := by decide +kernel
  have hplace : o.document.menuPlace lowerLine = (595, 203) := by decide +kernel
  have hshown : lastAnchor? o.effects = some (595, 103) := by decide +kernel
  obtain ⟨b, hb, hanchor⟩ := hall DocumentOptions.standard (lineAgain lowerLine) bareHost 210 1
    (by decide +kernel) (by decide +kernel) (by decide +kernel)
  obtain rfl := Option.some.inj (hfind.symm.trans hb)
  have heq : ((595, 103) : Float × Float) = (595, 203) :=
    Option.some.inj (hshown.symm.trans (hanchor.trans (congrArg some hplace)))
  exact absurd heq (by decide +kernel)

end History

end Document

end BandCanvas
