import BandCanvas.Json.Fields

namespace BandCanvas

structure Chapter where
  path : String
  report : String
  locale : String
  editable : Bool
  params : Option String
  pageCount : Nat
  deriving DecidableEq, Repr

namespace Chapter

open Json.Written

def maxCount : Nat := 4294967295

def read? (w : Json.Written) : Option Chapter := do
  let field ← w.fields? ["path", "jrxml", "locale", "editable", "params", "pageCount"]
  let path ← required text? (field "path")
  let report ← required text? (field "jrxml")
  let locale ← withDefault "pt_PT" text? (field "locale")
  let editable ← withDefault false bool? (field "editable")
  let params ← withDefault none (optional? text?) (field "params")
  let pageCount ← withDefault 1 (nat? maxCount) (field "pageCount")
  some ⟨path, report, locale, editable, params, pageCount⟩

def toJson (c : Chapter) : Json :=
  .object ([("path", .string c.path), ("jrxml", .string c.report), ("locale", .string c.locale),
    ("editable", .bool c.editable)] ++ (c.params.elim [] fun p => [("params", .string p)]) ++
    [("pageCount", .integer c.pageCount)])

def reportName (c : Chapter) : String :=
  String.ofList (c.report.toList.reverse.takeWhile (· != '/')).reverse

def pages (c : Chapter) : Nat :=
  max c.pageCount 1

end Chapter

structure DocumentModel where
  chapters : List Chapter
  backgroundColor : Option String
  deriving DecidableEq, Repr

namespace DocumentModel

open Json.Written

def read? (w : Json.Written) : Option DocumentModel := do
  let field ← w.fields? ["chapters", "backgroundColor"]
  let chapters ← required (list? Chapter.read?) (field "chapters")
  let backgroundColor ← withDefault none (optional? text?) (field "backgroundColor")
  some ⟨chapters, backgroundColor⟩

def parse? (text : String) : Option DocumentModel :=
  (Json.Written.parse? text).bind read?

def toJson (m : DocumentModel) : Json :=
  .object (("chapters", .array (m.chapters.map Chapter.toJson)) ::
    m.backgroundColor.elim [] fun c => [("backgroundColor", .string c)])

def pagesOf : List Chapter → Nat
  | [] => 0
  | c :: cs => c.pages + pagesOf cs

def totalPages (m : DocumentModel) : Nat :=
  pagesOf m.chapters

/-- Finds the chapter and page of `page`. Numbers start from `first`, and chapters are counted from `index` on.
-/
def locate (page first index : Nat) : List Chapter → Option (Nat × Nat)
  | [] => none
  | c :: cs =>
    if first ≤ page ∧ page < first + c.pages then some (index, 1 + page - first)
    else locate page (first + c.pages) (index + 1) cs

/-- The chapter of a page, counted from zero, and the page of the chapter, counted from one. -/
def locatePage (m : DocumentModel) (page : Nat) : Option (Nat × Nat) :=
  locate page 1 0 m.chapters

def chapterOfReport? (m : DocumentModel) (name : String) : Option Nat :=
  m.chapters.findIdx? (·.reportName = name)

end DocumentModel

end BandCanvas
