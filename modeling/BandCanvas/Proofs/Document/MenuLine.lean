import BandCanvas.Proofs.Document.Menu
import BandCanvas.Proofs.Document.ReplayExtent

namespace BandCanvas

def Band.last? (id : Int) (bs : List Band) : Option Band :=
  bs.reverse.find? (·.id = id)

theorem Band.last?_append (id : Int) (as bs : List Band) :
    last? id (as ++ bs) = (last? id bs).or (last? id as) := by
  rw [last?, List.reverse_append, List.find?_append]
  rfl

theorem BandStore.find?_upsert (id : Int) (b : Band) (s : BandStore) :
    (s.upsert b).find? id = if b.id = id then some b else s.find? id := by
  ext a
  rw [find?_eq_some_iff, mem_upsert_iff]
  split
  next hid =>
    rw [Option.some.injEq]
    constructor
    · rintro ⟨rfl | ⟨-, hne⟩, ha⟩
      · rfl
      · exact absurd (ha.trans hid.symm) hne
    · rintro rfl
      exact ⟨.inl rfl, hid⟩
  next hid =>
    rw [find?_eq_some_iff]
    constructor
    · rintro ⟨rfl | ⟨ha, -⟩, hida⟩
      · exact absurd hida hid
      · exact ⟨ha, hida⟩
    · rintro ⟨ha, rfl⟩
      exact ⟨.inr ⟨ha, fun heq => hid heq.symm⟩, rfl⟩

theorem BandStore.find?_empty (id : Int) : BandStore.empty.find? id = none :=
  rfl

theorem Step.find?_stored {source : String} {xs : List Step} {s : BandStore} {id : Int} {b : Band}
    (h : (stored source xs s).find? id = some b) :
    (Band.last? id (defined source xs)).or (s.find? id) = some b := by
  induction xs generalizing s with
  | nil => exact h
  | cons x xs ih =>
    have hrest := ih h
    obtain ⟨r, c⟩ := x
    cases r with
    | error e => exact hrest
    | ok k =>
      cases k with
      | reset hard =>
        rw [store, Document.bandsAfter, BandStore.find?_empty, Option.or_none] at hrest
        have hsame : defined source ((.ok (.reset hard), c) :: xs) = defined source xs := rfl
        rw [hsame, hrest]
        rfl
      | band header =>
        have hcons : defined source ((.ok (.band header), c) :: xs) =
            [header.band source c.offset] ++ defined source xs := rfl
        rw [store, Document.bandsAfter, BandStore.find?_upsert] at hrest
        rw [hcons, Band.last?_append, Option.or_assoc, ← hrest]
        congr 1
        show (List.find? _ [header.band source c.offset]).or _ = _
        rw [List.find?_singleton]
        by_cases hid : (header.band source c.offset).id = id
        · rw [decide_eq_true hid, if_pos hid]
          rfl
        · rw [decide_eq_false hid, if_neg hid]
          rfl
      | _ => exact hrest

namespace DocumentOperation

def defined : DocumentOperation → List Band
  | .message text =>
    match text.toList with
    | 'D' :: ':' :: _ => Step.defined text (Fragment.decoded ⟨text, 2⟩)
    | _ => []
  | .paint commands => Step.defined commands (Fragment.decoded ⟨commands, 0⟩)
  | _ => []

def isPlain : DocumentOperation → Bool
  | .message _ | .paint _ | .pointer _ => false
  | _ => true

end DocumentOperation

namespace Document

variable {host : WidgetHost} {d : Document} {id : Int} {b : Band}

theorem notify_page (n : Notification) (d : Document) :
    (d.notify n).document.bands = d.bands ∧ (d.notify n).document.menuBand = d.menuBand := by
  obtain ⟨paging, effects, hnoted⟩ := exists_noted n d.paging
  rw [hnoted d rfl]
  exact ⟨rfl, rfl⟩

theorem pointerMoved_bands (y : Float) (d : Document) : (d.pointerMoved y).document.bands = d.bands := by
  obtain ⟨menuBand, hmoved⟩ := pointerMoved_document y d
  rw [hmoved]

theorem setEditable_bands (editable : Bool) (d : Document) :
    (d.setEditable editable).document.bands = d.bands := by
  cases editable with
  | true => rfl
  | false => exact (hideMenu_samePage { d with editable := false }).bands

theorem handleMessage_find? {text : String}
    (h : (d.handleMessage host text).document.bands.find? id = some b) :
    (Band.last? id (DocumentOperation.message text).defined).or (d.bands.find? id) = some b := by
  by_cases hstream : ∃ stream, text.toList = 'D' :: ':' :: stream
  · obtain ⟨stream, htext⟩ := hstream
    rw [handleMessage_stream htext, live_bands] at h
    rw [DocumentOperation.defined, htext]
    exact Step.find?_stored h
  · have hdefined : (DocumentOperation.message text).defined = [] := by
      rw [DocumentOperation.defined]
      split
      next stream htext => exact absurd ⟨stream, htext⟩ hstream
      next => rfl
    have hbands : (d.handleMessage host text).document.bands = d.bands := by
      rw [handleMessage]
      split
      next stream htext => exact absurd ⟨_, htext⟩ hstream
      next json htext =>
        cases Notification.parse? (String.ofList json) with
        | none => rfl
        | some n => exact (notify_page n d).1
      next => rfl
    rw [hdefined, ← hbands]
    exact h

theorem operation_find? (op : DocumentOperation) (h : (op.run host d).document.bands.find? id = some b) :
    (Band.last? id op.defined).or (d.bands.find? id) = some b := by
  cases op with
  | message text => exact handleMessage_find? h
  | paint commands =>
    rw [DocumentOperation.run, paint, live_bands] at h
    exact Step.find?_stored h
  | tick now loads =>
    obtain ⟨timer, -, htick | htick⟩ := tick_cases now loads d
    · rw [DocumentOperation.run, htick] at h
      exact h
    · rw [DocumentOperation.run, htick] at h
      exact h
  | pointer y =>
    rw [DocumentOperation.run, pointerMoved_bands] at h
    exact h
  | editable editable =>
    rw [DocumentOperation.run, setEditable_bands] at h
    exact h
  | reset =>
    rw [DocumentOperation.run, reset_eq] at h
    cases h
  | repaint | fontsLoaded | zoom | page | background | viewport | paging => exact h

def HasLine (d : Document) (id : Int) : Prop :=
  d.editable = true ∧ ∃ b, d.bands.find? id = some b ∧ b.isDetail = true

/-- The menu is left, hidden, or brought to a line that may have it. -/
def BringsMenu (d d' : Document) : Prop :=
  ∀ id, d'.menuBand = some id → d.menuBand = some id ∨ d'.HasLine id

theorem BringsMenu.of_eq {d' : Document} (h : d'.menuBand = d.menuBand) : d.BringsMenu d' :=
  fun _ hid => .inl (h ▸ hid)

theorem BringsMenu.of_none {d' : Document} (h : d'.menuBand = none) : d.BringsMenu d' :=
  fun _ hid => nomatch h ▸ hid

theorem updateMenu_brings (y : Float) (d : Document) : d.BringsMenu (d.updateMenu y).document := by
  rw [updateMenu]
  split
  next heditable =>
    split
    next => exact .of_none d.hideMenu_menuBand
    next b htarget =>
      split
      next => exact .of_eq rfl
      next =>
        obtain ⟨hb, hdetail⟩ := mem_of_menuTarget htarget
        intro id hid
        obtain rfl := Option.some.inj hid
        exact .inr ⟨heditable, b, BandStore.find?_eq_some_iff.2 ⟨hb, rfl⟩, hdetail⟩
  next => exact .of_none d.hideMenu_menuBand

theorem adjustScroll_menuBand (host : WidgetHost) (d : Document) :
    (d.adjustScroll host).document.menuBand = d.menuBand := by
  rw [adjustScroll_document]

theorem adjustScroll_silent (host : WidgetHost) (d : Document) :
    ∀ e ∈ (d.adjustScroll host).effects, e.menu? = none := by
  rw [adjustScroll]
  split
  next =>
    dsimp only
    split
    · exact List.forall_mem_singleton.2 rfl
    · exact List.forall_mem_nil _
  next => exact List.forall_mem_nil _

theorem notify_silent (n : Notification) (d : Document) : ∀ e ∈ (d.notify n).effects, e.menu? = none := by
  have hcount (count : Nat) (d : Document) : ∀ e ∈ (d.updatePageCount count).effects, e.menu? = none :=
    fun e he => Effect.menu?_of_isPaging ((d.paging.updatePageCount_reports count).2 e he)
  have hnumber (number : Nat) (d : Document) : ∀ e ∈ (d.updatePageNumber number).effects, e.menu? = none :=
    fun e he => Effect.menu?_of_isPaging ((d.paging.updatePageNumber_reports number).2 e he)
  rw [notify]
  split
  · exact List.forall_mem_nil _
  · cases n.pageCount.filter (0 < ·) with
    | none =>
      cases n.pageNumber.filter (0 < ·) with
      | none => exact List.forall_mem_nil _
      | some number => exact hnumber number d
    | some count =>
      cases n.pageNumber.filter (0 < ·) with
      | none => exact hcount count d
      | some number => exact List.forall_mem_append.2 ⟨hcount count d, hnumber number _⟩

variable (host : WidgetHost) (source : String) (position : Nat) (p : LivePass)

/-- Only the preparation of the overlay, which ends a pass, can bring the menu to another band. -/
theorem perform_menuBand {k : Command} (hk : k.endsPass = false) (d : Document) :
    (d.perform host source position p k).1.document.menuBand = d.menuBand ∨
      (d.perform host source position p k).1.document.menuBand = none := by
  cases k with
  | reset hard =>
    cases hard with
    | true => exact .inr d.hideMenu_menuBand
    | false => exact .inr d.hideMenu_menuBand
  | update => cases hk
  | editor e =>
    cases e with
    | prepare box => cases hk
    | start field => exact .inl (adjustScroll_menuBand host _)
    | _ => exact .inl rfl
  | _ => exact .inl rfl

theorem perform_brings (k : Command) (d : Document) :
    d.BringsMenu (d.perform host source position p k).1.document := by
  cases hk : k.endsPass with
  | false =>
    rcases perform_menuBand host source position p hk d with hmenu | hmenu
    · exact .of_eq hmenu
    · exact .of_none hmenu
  | true =>
    cases k with
    | update =>
      rw [perform]
      split <;> exact .of_eq rfl
    | editor e =>
      cases e with
      | prepare box => exact updateMenu_brings _ (d.withOverlay (d.overlay.prepare d.ratio box)).document
      | _ => cases hk
    | _ => cases hk

theorem runSteps_brings (xs : List Step) (d : Document) :
    d.BringsMenu (runSteps host source xs p d).1.document := by
  induction xs generalizing p d with
  | nil => exact .of_eq rfl
  | cons x xs ih =>
    obtain ⟨r, c⟩ := x
    cases r with
    | error e => exact ih p d
    | ok k =>
      rcases perform_cases host source c.offset p d k with ⟨-, o, ho⟩ | ⟨hk, o, p', ho⟩
      · have hstep := perform_brings host source c.offset p k d
        rw [ho] at hstep
        rw [runSteps_stop ho]
        exact hstep
      · have hstep := perform_menuBand host source c.offset p hk d
        rw [ho] at hstep
        rw [runSteps_go ho]
        intro id hid
        apply (ih p' o.document id hid).imp_left
        intro hbefore
        rcases hstep with hmenu | hmenu
        · exact hmenu ▸ hbefore
        · cases hmenu ▸ hbefore

variable {host}

theorem live_brings (f : Fragment) (d : Document) : d.BringsMenu (d.live host f).document := by
  rw [live_eq_runSteps]
  exact runSteps_brings host f.source LivePass.initial f.decoded d

theorem handleMessage_brings (text : String) (d : Document) :
    d.BringsMenu (d.handleMessage host text).document := by
  rw [handleMessage]
  split
  · exact live_brings _ d
  next json _ =>
    cases Notification.parse? (String.ofList json) with
    | none => exact .of_eq rfl
    | some n => exact .of_eq (notify_page n d).2
  · exact .of_eq rfl

theorem menuBand_of_isPlain {op : DocumentOperation} (h : op.isPlain = true) (d : Document) :
    (op.run host d).document.menuBand = d.menuBand ∨ (op.run host d).document.menuBand = none := by
  cases op with
  | message | paint | pointer => cases h
  | tick now loads =>
    obtain ⟨timer, -, htick | htick⟩ := tick_cases now loads d
    · exact .inl (congrArg (·.document.menuBand) htick)
    · exact .inl (congrArg (·.document.menuBand) htick)
  | editable editable =>
    cases editable with
    | true => exact .inl rfl
    | false => exact .inr (hideMenu_menuBand { d with editable := false })
  | reset => exact .inr (congrArg (·.document.menuBand) d.reset_eq)
  | repaint | fontsLoaded | zoom | page | background | viewport | paging => exact .inl rfl

theorem operation_brings (op : DocumentOperation) (d : Document) :
    d.BringsMenu (op.run host d).document := by
  cases hplain : op.isPlain with
  | true =>
    rcases menuBand_of_isPlain hplain d with hmenu | hmenu
    · exact .of_eq hmenu
    · exact .of_none hmenu
  | false =>
    cases op with
    | message text => exact handleMessage_brings text d
    | paint commands => exact live_brings _ d
    | pointer y =>
      rw [DocumentOperation.run, pointerMoved]
      split
      · exact updateMenu_brings _ d
      · exact .of_eq rfl
    | _ => cases hplain

theorem handleMessage_band {text : String} {stream : List Char} {header : BandHeader} {c : Cursor}
    (htext : text.toList = 'D' :: ':' :: stream)
    (hstep : (Fragment.cursor ⟨text, 2⟩).step = some (.ok (.band header), c)) (hend : c.step = none)
    (d : Document) :
    (DocumentOperation.message text).defined = [header.band text c.offset] ∧
      (d.handleMessage host text).document =
        { d with bands := d.bands.upsert (header.band text c.offset) } := by
  have hdecoded : Fragment.decoded ⟨text, 2⟩ = [(.ok (.band header), c)] :=
    Fragment.decoded_eq (.next hstep (.done hend)) rfl
  constructor
  · simp only [DocumentOperation.defined, htext, hdecoded]
    rfl
  · rw [handleMessage_stream htext, live_eq_runSteps, hdecoded]
    rfl

theorem pointerMoved_line {y : Float} (hvisible : d.overlay.visible = false)
    (hfinite : d.scale.toDocument.isFinite = true) (heditable : d.editable = true)
    (htarget : d.menuTarget? (d.scale.cssToDevice y) = some b) (hmenu : d.menuBand = none) :
    (d.pointerMoved y).document = { d with menuBand := some b.id } := by
  rw [pointerMoved, hvisible, hfinite, heditable]
  simp only [Bool.not_false, Bool.and_self, if_true, updateMenu, heditable, htarget, hmenu]
  rfl

end Document

end BandCanvas
