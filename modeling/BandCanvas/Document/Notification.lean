import BandCanvas.Document.Basic

namespace BandCanvas

structure Notification where
  focus : Option String
  pageCount : Option Nat
  pageNumber : Option Nat
  deriving DecidableEq, Repr

namespace Notification

open Json.Written

/-- The counts of a note. -/
def counts? (w : Json.Written) : Option (Option Nat × Option Nat) := do
  let field ← w.fields? ["PAGE_COUNT", "PAGE_NUMBER"]
  let count ← withDefault none (optional? (nat? 4294967295)) (field "PAGE_COUNT")
  let number ← withDefault none (optional? (nat? 4294967295)) (field "PAGE_NUMBER")
  some (count, number)

def read? (w : Json.Written) : Option Notification := do
  let field ← w.fields? ["focus", "variables"]
  let focus ← withDefault none (optional? text?) (field "focus")
  let counts ← withDefault none (optional? counts?) (field "variables")
  some ⟨focus, counts.bind Prod.fst, counts.bind Prod.snd⟩

def parse? (text : String) : Option Notification :=
  (Json.Written.parse? text).bind read?

/-- A note on the focus says nothing about pages. -/
def isFocus (n : Notification) : Bool :=
  n.focus = some "forward" || n.focus = some "backwards"

end Notification

namespace Document

def updatePageCount (count : Nat) (d : Document) : Outcome :=
  let (event, paging) := d.paging.updatePageCount count
  ⟨{ d with paging }, Effect.ofEvent? event⟩

def updatePageNumber (number : Nat) (d : Document) : Outcome :=
  let (event, paging) := d.paging.updatePageNumber number
  ⟨{ d with paging }, Effect.ofEvent? event⟩

/-- Takes a note. Counts of zero say nothing. -/
def notify (n : Notification) (d : Document) : Outcome :=
  if n.isFocus then d.quiet
  else
    let counted := match n.pageCount.filter (0 < ·) with
      | some count => d.updatePageCount count
      | none => d.quiet
    match n.pageNumber.filter (0 < ·) with
    | some number => counted.andThen (updatePageNumber number)
    | none => counted

end Document

end BandCanvas
