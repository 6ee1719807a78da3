import BandCanvas.Document.Event
import BandCanvas.Document.Model

namespace BandCanvas

structure Paging where
  model : Option DocumentModel
  chapterIndex : Nat
  /-- The page and the number of pages of the open chapter, as reported with the page. -/
  chapterPage : Nat × Nat
  page : Nat
  total : Nat
  loading : Bool
  deriving DecidableEq, Repr

namespace Paging

def initial : Paging :=
  ⟨none, 0, (0, 0), 0, 0, false⟩

def reset (model : Option DocumentModel) (p : Paging) : Paging :=
  { p with
    model
    chapterIndex := 0
    chapterPage := (0, 0)
    page := 1
    total := model.elim 0 DocumentModel.totalPages }

def chapter? (p : Paging) : Option Chapter :=
  p.model.bind fun m => m.chapters[p.chapterIndex]?

def setChapterIndex (index : Nat) (p : Paging) : Paging :=
  { p with chapterIndex := index }

def setLoading (loading : Bool) (p : Paging) : Paging :=
  { p with loading }

/-- Takes a report on the open chapter. One that changes nothing is not passed on. -/
def setChapterPage (number count : Nat) (p : Paging) : Option DocumentEvent × Paging :=
  if p.chapterPage = (number, count) then (none, p)
  else (some (.chapterPage number count), { p with chapterPage := (number, count) })

def updatePageCount (count : Nat) (p : Paging) : Option DocumentEvent × Paging :=
  match p.model, p.chapter? with
  | some m, some c =>
    let c' := { c with pageCount := count }
    let total := p.total - c.pages + c'.pages
    let event := if total ≠ p.total ∧ !p.loading then some (.pageCount total) else none
    (event, { p with model := some { m with chapters := m.chapters.set p.chapterIndex c' }, total })
  | _, _ => (none, p)

def updatePageNumber (chapterPage : Nat) (p : Paging) : Option DocumentEvent × Paging :=
  match p.model with
  | some m =>
    let page := DocumentModel.pagesOf (m.chapters.take p.chapterIndex) + chapterPage
    (if p.loading then none else some (.pageNumber page), { p with page })
  | none => (none, p)

end Paging

end BandCanvas
