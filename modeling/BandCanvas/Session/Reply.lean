import BandCanvas.Json.Fields
import BandCanvas.Json.Printer

namespace BandCanvas

inductive Reply (α : Type) where
  | errors (messages : List String)
  | ack (payload : α)

structure Margins where
  top : Float
  left : Float
  bottom : Float
  right : Float
  deriving DecidableEq

structure OpenedDocument where
  id : String
  width : Float
  height : Option Float
  margins : Margins
  deriving DecidableEq

namespace Margins

open Json.Written

def none : Margins :=
  ⟨0, 0, 0, 0⟩

def read? (w : Json.Written) : Option Margins := do
  let field ← w.fields? ["top", "left", "bottom", "right"]
  let top ← withDefault 0 float? (field "top")
  let left ← withDefault 0 float? (field "left")
  let bottom ← withDefault 0 float? (field "bottom")
  let right ← withDefault 0 float? (field "right")
  some ⟨top, left, bottom, right⟩

end Margins

namespace OpenedDocument

open Json.Written

/-- An identifier is a string, or a number that stands for its text. -/
def id? : Json.Written → Option String
  | .string s => s
  | .number n =>
    match n.integer? with
    | some i => some (toString i)
    | none => n.float?.map fun x => String.ofList (Json.numberText x)
  | _ => none

def read? (w : Json.Written) : Option OpenedDocument := do
  let field ← w.fields? ["id", "page"]
  let id ← required id? (field "id")
  let page ← field "page"
  let pageField ← page.fields? ["width", "height", "margins"]
  let width ← required float? (pageField "width")
  let height ← withDefault none (optional? float?) (pageField "height")
  let margins ← withDefault Margins.none Margins.read? (pageField "margins")
  some ⟨id, width, height, margins⟩

end OpenedDocument

namespace Reply

open Json.Written

/-- The messages of a reply that reports errors. Only an object does; an array is a payload. -/
def errors? : Json.Written → Option (List String)
  | .object ms => do
    let field ← fields? ["errors"] (.object ms)
    required (list? text?) (field "errors")
  | _ => none

/-- Reads a reply. The whole text has to be a value; what can be read as errors is errors. -/
def read? {α : Type} (payload : Json.Written → Option α) (w : Json.Written) : Option (Reply α) := do
  let _ ← w.value? maxDepth
  match errors? w with
  | some messages => some (errors messages)
  | none => (payload w).map ack

def parse? {α : Type} (payload : Json.Written → Option α) (text : String) : Option (Reply α) :=
  (Json.Written.parse? text).bind (read? payload)

def parseValue? : String → Option (Reply Json) :=
  parse? fun w => w.value? maxDepth

def parseOpened? : String → Option (Reply OpenedDocument) :=
  parse? OpenedDocument.read?

end Reply

end BandCanvas
