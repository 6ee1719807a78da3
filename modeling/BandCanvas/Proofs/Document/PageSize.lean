import BandCanvas.Proofs.Document.Operation
import BandCanvas.Proofs.Document.Response

namespace BandCanvas.Document

/-- Both pages are at one scale, with one margin. -/
structure SameSize (d d' : Document) : Prop where
  scale : d'.scale = d.scale
  rightMargin : d'.rightMargin = d.rightMargin

namespace SameSize

variable {d d' d'' : Document}

theorem trans (h : d.SameSize d') (h' : d'.SameSize d'') : d.SameSize d'' :=
  ⟨h'.scale.trans h.scale, h'.rightMargin.trans h.rightMargin⟩

theorem menuPlace (h : d.SameSize d') : d'.menuPlace = d.menuPlace := by
  obtain ⟨hscale, hmargin⟩ := h
  funext b
  rw [Document.menuPlace, Document.menuPlace, ratio, ratio, hscale, hmargin]

end SameSize

variable {host : WidgetHost} {d : Document} {o : Outcome}

theorem Response.sameSize (h : Response host d o) : d.SameSize o.document := by
  induction h with
  | andThen _ _ ih ih' => exact ih.trans ih'
  | _ => exact ⟨rfl, rfl⟩

theorem hideMenu_sameSize (d : Document) : d.SameSize d.hideMenu.document := by
  rw [hideMenu_document]
  exact ⟨rfl, rfl⟩

theorem setEditable_sameSize (editable : Bool) (d : Document) :
    d.SameSize (d.setEditable editable).document := by
  cases editable with
  | true => exact ⟨rfl, rfl⟩
  | false =>
    have hset : d.SameSize { d with editable := false } := ⟨rfl, rfl⟩
    exact hset.trans (hideMenu_sameSize _)

theorem operation_sameSize {op : DocumentOperation} (hop : op.resizes = false) (d : Document) :
    d.SameSize (op.run host d).document := by
  cases op with
  | message text => exact (d.handleMessage_response host text).sameSize
  | paint commands => exact (d.live_response host ⟨commands, 0⟩).sameSize
  | tick now loads =>
    rw [DocumentOperation.run]
    obtain ⟨timer, -, htick | htick⟩ := tick_cases now loads d
    · rw [htick]
      exact ⟨rfl, rfl⟩
    · rw [htick]
      exact ⟨rfl, rfl⟩
  | pointer y => exact (d.pointerMoved_response host y).sameSize
  | editable editable => exact setEditable_sameSize editable d
  | reset =>
    rw [DocumentOperation.run, reset_eq]
    exact ⟨rfl, rfl⟩
  | zoom | page => cases hop
  | repaint | fontsLoaded | background | viewport | paging => exact ⟨rfl, rfl⟩

end BandCanvas.Document
