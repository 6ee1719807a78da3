import BandCanvas.Proofs.Document.Operation
import BandCanvas.Proofs.Document.Pass

namespace BandCanvas

def Command.report? : Command → Option (Nat × Nat)
  | .page number count => some (number, count)
  | _ => none

def Step.report? : Step → Option (Nat × Nat)
  | (.ok k, _) => k.report?
  | (.error _, _) => none

def Fragment.reports (f : Fragment) : List (Nat × Nat) :=
  f.decoded.filterMap Step.report?

def DocumentOperation.reports : DocumentOperation → List (Nat × Nat)
  | .message text =>
    match text.toList with
    | 'D' :: ':' :: _ => Fragment.reports ⟨text, 2⟩
    | _ => []
  | .paint commands => Fragment.reports ⟨commands, 0⟩
  | _ => []

namespace Paging

/-- The pages after reports. -/
def withReports (p : Paging) (reports : List (Nat × Nat)) : Paging :=
  { p with chapterPage := reports.getLastD p.chapterPage }

theorem withReports_append (p : Paging) (reports more : List (Nat × Nat)) :
    p.withReports (reports ++ more) = (p.withReports reports).withReports more := by
  have hlast : (reports ++ more).getLastD p.chapterPage =
      more.getLastD (reports.getLastD p.chapterPage) := by
    rw [List.getLastD_eq_getLast?, List.getLastD_eq_getLast?, List.getLastD_eq_getLast?,
      List.getLast?_append]
    cases more.getLast? <;> rfl
  exact congrArg (fun chapterPage => { p with chapterPage }) hlast

end Paging

theorem Step.reports_cons (k : Command) (c : Cursor) (xs : List Step) :
    ((.ok k, c) :: xs : List Step).filterMap Step.report? =
      k.report?.toList ++ xs.filterMap Step.report? := by
  have hstep : Step.report? (.ok k, c) = k.report? := rfl
  cases hk : k.report? with
  | none => exact List.filterMap_cons_none (hstep.trans hk)
  | some r => exact List.filterMap_cons_some (hstep.trans hk)

namespace Document

variable (host : WidgetHost) (d : Document)

theorem hideMenu_paging : d.hideMenu.document.paging = d.paging := by
  rw [hideMenu_document]

theorem updateMenu_paging (y : Float) : (d.updateMenu y).document.paging = d.paging := by
  obtain ⟨menuBand, hmoved⟩ := updateMenu_document y d
  rw [hmoved]

theorem adjustScroll_paging : (d.adjustScroll host).document.paging = d.paging := by
  rw [adjustScroll_document]

theorem setEditable_paging (editable : Bool) : (d.setEditable editable).document.paging = d.paging := by
  rw [setEditable]
  split
  · rfl
  · exact hideMenu_paging _

theorem edit_paging (e : EditorCommand) : (d.edit host e).document.paging = d.paging := by
  cases e with
  | start field => exact adjustScroll_paging host _
  | _ => rfl

theorem perform_paging (source : String) (position : Nat) (p : LivePass) (k : Command) :
    (d.perform host source position p k).1.document.paging =
      d.paging.withReports (Command.report? k).toList := by
  cases k with
  | reset hard =>
    cases hard with
    | true => exact d.hideMenu_paging
    | false => exact d.hideMenu_paging
  | update =>
    rw [perform]
    split <;> rfl
  | page number count =>
    show (d.paging.setChapterPage number count).2 = { d.paging with chapterPage := (number, count) }
    rw [Paging.setChapterPage]
    split
    next hsame => rw [← hsame]
    next => rfl
  | editor e =>
    cases e with
    | prepare box => exact updateMenu_paging _ _
    | start field => exact d.edit_paging host (.start field)
    | _ => rfl
  | _ => rfl

theorem runSteps_paging (source : String) (xs : List Step) (p : LivePass) :
    (runSteps host source xs p d).1.document.paging =
      d.paging.withReports ((Step.through Command.endsPass xs).filterMap Step.report?) := by
  induction xs generalizing p d with
  | nil => rfl
  | cons x xs ih =>
    obtain ⟨r, c⟩ := x
    cases r with
    | error e => exact ih d p
    | ok k =>
      have hpaging := d.perform_paging host source c.offset p k
      rcases perform_cases host source c.offset p d k with ⟨hk, o, ho⟩ | ⟨hk, o, p', ho⟩
      · rw [ho] at hpaging
        rw [Step.through_stop hk, runSteps_stop ho, Step.reports_cons]
        exact hpaging.trans (congrArg d.paging.withReports (List.append_nil _).symm)
      · rw [ho] at hpaging
        rw [Step.through_go hk, runSteps_go ho, Step.reports_cons, Paging.withReports_append, ← hpaging]
        exact ih o.document p'

theorem live_paging (f : Fragment) :
    (d.live host f).document.paging = d.paging.withReports f.reports := by
  rw [live_eq_runSteps, Fragment.decoded]
  show (runSteps host f.source (Step.through Command.endsPass f.cursor.steps) LivePass.initial
    d).1.document.paging = _
  rw [runSteps_through]
  exact d.runSteps_paging host f.source f.cursor.steps LivePass.initial

theorem updatePageCount_chapterPage (count : Nat) :
    (d.updatePageCount count).document.paging.chapterPage = d.paging.chapterPage := by
  show (d.paging.updatePageCount count).2.chapterPage = d.paging.chapterPage
  rw [Paging.updatePageCount]
  split <;> rfl

theorem updatePageNumber_chapterPage (number : Nat) :
    (d.updatePageNumber number).document.paging.chapterPage = d.paging.chapterPage := by
  show (d.paging.updatePageNumber number).2.chapterPage = d.paging.chapterPage
  rw [Paging.updatePageNumber]
  split <;> rfl

theorem notify_chapterPage (n : Notification) :
    (d.notify n).document.paging.chapterPage = d.paging.chapterPage := by
  rw [notify]
  split
  · rfl
  · cases n.pageCount.filter (0 < ·) with
    | none =>
      cases n.pageNumber.filter (0 < ·) with
      | none => rfl
      | some number => exact d.updatePageNumber_chapterPage number
    | some count =>
      have hcounted := d.updatePageCount_chapterPage count
      cases n.pageNumber.filter (0 < ·) with
      | none => exact hcounted
      | some number => exact (updatePageNumber_chapterPage _ number).trans hcounted

theorem pointerMoved_paging (y : Float) : (d.pointerMoved y).document.paging = d.paging := by
  obtain ⟨menuBand, hmoved⟩ := pointerMoved_document y d
  rw [hmoved]

theorem stream_paging {text : String} {stream : List Char} (htext : text.toList = 'D' :: ':' :: stream) :
    (d.handleMessage host text).document.paging =
      d.paging.withReports (DocumentOperation.message text).reports := by
  rw [handleMessage, DocumentOperation.reports, htext]
  exact d.live_paging host _

theorem handleMessage_chapterPage (text : String) :
    (d.handleMessage host text).document.paging.chapterPage =
      (d.paging.withReports (DocumentOperation.message text).reports).chapterPage := by
  by_cases hstream : ∃ stream, text.toList = 'D' :: ':' :: stream
  · obtain ⟨stream, htext⟩ := hstream
    rw [d.stream_paging host htext]
  · have hreports : (DocumentOperation.message text).reports = [] := by
      rw [DocumentOperation.reports]
      split
      next stream htext => exact absurd ⟨stream, htext⟩ hstream
      next => rfl
    rw [hreports, handleMessage]
    split
    next stream htext => exact absurd ⟨_, htext⟩ hstream
    next json htext =>
      cases Notification.parse? (String.ofList json) with
      | none => rfl
      | some n => exact d.notify_chapterPage n
    next => rfl

/-- Unless its pages are set by the host, a document knows the last report. -/
theorem operation_chapterPage (op : DocumentOperation) (hop : ∀ p, op ≠ .paging p) :
    (op.run host d).document.paging.chapterPage = (d.paging.withReports op.reports).chapterPage := by
  cases op with
  | message text => exact d.handleMessage_chapterPage host text
  | paint commands => exact congrArg Paging.chapterPage (d.live_paging host _)
  | repaint | fontsLoaded | zoom | page | background | viewport => rfl
  | tick now loads =>
    obtain ⟨timer, -, htick | htick⟩ := tick_cases now loads d
    · exact congrArg (·.document.paging.chapterPage) htick
    · exact congrArg (·.document.paging.chapterPage) htick
  | pointer y => exact congrArg Paging.chapterPage (d.pointerMoved_paging y)
  | editable editable => exact congrArg Paging.chapterPage (d.setEditable_paging editable)
  | paging p => exact absurd rfl (hop p)
  | reset => exact congrArg (·.document.paging.chapterPage) d.reset_eq

end Document

end BandCanvas
