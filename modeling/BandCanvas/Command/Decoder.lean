import BandCanvas.Command.Basic
import BandCanvas.Command.Reader

namespace BandCanvas.Reader

def paintMode (default : PaintMode) : Reader PaintMode := do
  match (← peek).bind PaintMode.ofLetter? with
  | some mode =>
    skip 1
    return mode
  | none => return default

def bandHeader (paint : Bool) : Reader BandHeader := do
  let kind ← string
  let id ← number
  let editable := (← next) == some 't'
  skip 1
  let height ← number
  let x ← number
  let y ← number
  return { paint, kind, id := Binary64.toInt64 id, editable, height, x, y }

def image : Reader ImageCommand := do
  let id ← number
  let path ← string
  let top ← number
  let left ← number
  let bottom ← number
  let right ← number
  let mode := FitMode.ofCode (← string)
  let horizontal := HorizontalAnchor.ofCode (← string)
  let vertical := VerticalAnchor.ofCode (← string)
  return ⟨Binary64.toInt64 id, path, ⟨⟨top, left, bottom, right⟩, mode, horizontal, vertical⟩⟩

def text : Reader Command := do
  let mode ← paintMode .fill
  let x ← number
  let y ← number
  let content ← payload
  if ← eat ',' then
    let width ← number
    return .text mode x y content (some width)
  else
    skip 1
    return .text mode x y content none

def fontMetrics : Reader FontMetrics := do
  let flags ← number
  let top ← number
  let ascent ← number
  let descent ← number
  let bottom ← number
  let leading ← number
  let averageWidth ← number
  let maximumWidth ← number
  let underlineThickness ← number
  let underlinePosition ← number
  return ⟨flags, top, ascent, descent, bottom, leading, averageWidth, maximumWidth,
    underlineThickness, underlinePosition⟩

def font : Reader Command := do
  if ← eat 'm' then
    return .fontMetrics (← fontMetrics)
  else
    let style ← number
    let size ← number
    return .font style.toUInt8 (Binary64.round size)

def transform : Reader Command := do
  match ← next with
  | some 'r' =>
    let dx ← number
    let dy ← number
    let angle ← number
    return .transform dx dy angle
  | some 'c' =>
    skip 1
    return .resetTransform
  | _ => return .unknown 't'

def page : Reader Command := do
  match ← next with
  | some 'g' =>
    let major ← number
    let minor ← number
    return .grid major minor
  | some 'p' =>
    let current ← number
    let count ← number
    return .page (Binary64.toNat32 current) (Binary64.toNat32 count)
  | _ => return .unknown 'k'

def subDocument (uri report : String) : SubDocument :=
  { uri := if uri.isEmpty then none else some uri
    report := if report.isEmpty then none else some report }

def hasName (d : SubDocument) : Bool :=
  d.uri.isSome || d.report.isSome

/-- The names of a list written `{a,b,c}`. A text of at most two characters holds none. -/
def fieldList (raw : String) : List String :=
  let cs := raw.toList
  if cs.length ≤ 2 then []
  else
    let inner := if cs.head? = some '{' ∧ cs.getLast? = some '}' then cs.tail.dropLast else cs
    (inner.splitOn ',').map String.ofList

def optionalSubDocument : Reader (Option SubDocument) := do
  if ← eat ',' then
    let uri ← string
    let report ← payload
    skip 1
    return some (subDocument uri report)
  else
    skip 1
    return none

def optionalText : Reader (Option String) := do
  if ← eat ',' then
    let s ← payload
    skip 1
    return some s
  else
    skip 1
    return none

def combo : Reader ComboMode := do
  let version ← number
  if version == 2 then
    return .binding (← string)
  else
    let nullable ← number
    let fields ← string
    let listId ← string
    let uri ← string
    let report ← payload
    let list ← optionalText
    return .inline (nullable != 0) (fieldList fields) listId
      (some (subDocument uri report) |>.filter hasName) list

def editMode : Reader EditMode := do
  match ← next with
  | none => fail (.unexpectedEnd (← position))
  | some 't' =>
    skip 1
    return .text
  | some 'r' => return .readOnly (← optionalSubDocument)
  | some 'C' => return .serverCombo (← optionalSubDocument)
  | some 'd' => return .date (← optionalText)
  | some 'n' => return .number (← optionalText)
  | some 'c' => return .combo (← combo)
  | some 'R' =>
    let row ← number
    let name ← string
    let values ← string
    return .fieldArray (Binary64.toInt64 row) name values
  | some 'l' => return .ledgerCombo (fieldList (← string))
  | some other => return .other other

/-- The binding runs to the end of the stream, less a final semicolon. -/
def binding : Reader String := do
  let s ← remainder
  return String.ofList (if s.getLast? = some ';' then s.dropLast else s)

def fieldValue : Reader FieldValue := do
  if ← eat '{' then
    let id ← string
    let value ← string
    return .keyed id value
  else
    return .plain (← payload)

def editorStart : Reader EditorStart := do
  let x ← number
  let baseline ← number
  let height ← number
  let band ← number
  let value ← fieldValue
  skip 1
  return { x, baseline, height, band := Binary64.toInt64 band, value }

/-- Two more texts, as long as no semicolon ends the command. -/
def moreTexts : Reader (String × String) := do
  if (← peek) = some ';' then
    skip 1
    return ("", "")
  else
    skip 1
    let second ← payload
    if (← peek) = some ';' then
      skip 1
      return (second, "")
    else
      skip 1
      return (second, ← string)

def editorUpdate : Reader EditorUpdate := do
  let first ← payload
  let (second, third) ← moreTexts
  if (← look Cursor.previous) = some ';' then
    return { first, second, third, json := none }
  else
    return { first, second, third, json := some (← string) }

def editor : Reader EditorCommand := do
  match ← next with
  | none => fail (.unexpectedEnd (← position))
  | some 'a' => return .attach (← binding)
  | some 'c' => return .configure (← editMode)
  | some 'p' => return .prepare (← rect)
  | some 's' => return .start (← editorStart)
  | some 'u' => return .update (← editorUpdate)
  | some 'f' =>
    skip 1
    return .finish
  | some 'b' =>
    skip 1
    return .debugBox (← rect)
  | some 'h' =>
    let box ← rect
    let text ← string
    return .hint box text
  | some other => return .other other

def command : Char → Reader Command
  | 'Z' => do
    let soft ← eat 'd'
    skip 1
    return .reset !soft
  | 'B' => return .band (← bandHeader true)
  | 'b' => return .band (← bandHeader false)
  | 'U' => return .update
  | 'L' => do
    let x1 ← number
    let y1 ← number
    let x2 ← number
    let y2 ← number
    return .line x1 y1 x2 y2
  | 'R' => do
    if ← eat 'C' then
      return .rect .clear (← rect)
    else
      let mode ← paintMode .stroke
      return .rect (.paint mode) (← rect)
  | 'r' => do
    let mode ← paintMode .stroke
    let radius ← number
    return .roundRect mode radius (← rect)
  | 'T' => text
  | 'C' => return .fillColor (← color)
  | 'c' => return .textColor (← color)
  | 's' => return .strokeColor (← color)
  | 'w' => return .lineWidth (← number)
  | 'E' => do
    let mode ← paintMode .fill
    return .ellipse mode (← rect)
  | 'I' => return .image (← image)
  | 'F' => return .fontFamily (← string)
  | 'f' => font
  | 'X' => do
    let x ← number
    let y ← number
    return .legacyOrigin x y
  | 't' => transform
  | 'k' => page
  | 'e' => return .editor (← editor)
  | 'P' => do
    skipPast ';'
    return .reserved 'P'
  | 'p' => do
    skipPast ';'
    return .reserved 'p'
  | ';' => return .separator
  | other => return .unknown other

end BandCanvas.Reader

namespace BandCanvas.Cursor

def step (c : Cursor) : Option (Except DecodeError Command × Cursor) :=
  match c.rest with
  | [] => none
  | code :: rest => some ((Reader.command code).run (c.past [code] rest))

theorem step_follows {c d : Cursor} {r : Except DecodeError Command} (h : c.step = some (r, d)) :
    c.Follows d := by
  unfold step at h
  split at h
  · cases h
  next code rest hr =>
    have hf := (Reader.command code).follows (c.past [code] rest)
    rw [Option.some.inj h] at hf
    exact (follows_past (s := [code]) hr).trans hf

theorem step_length_lt {c d : Cursor} {r : Except DecodeError Command} (h : c.step = some (r, d)) :
    d.rest.length < c.rest.length := by
  unfold step at h
  split at h
  · cases h
  next code rest hr =>
    have hf := (Reader.command code).follows (c.past [code] rest)
    rw [Option.some.inj h] at hf
    have := hf.length_le
    simp [past] at this
    simp [hr]
    omega

def terminated (c : Cursor) : Bool :=
  c.previous == some ';'

/-- All steps from here to the end of the text, each with the cursor after it. -/
def steps (c : Cursor) : List (Except DecodeError Command × Cursor) :=
  match _h : c.step with
  | none => []
  | some (r, d) => (r, d) :: d.steps
termination_by c.rest.length
decreasing_by exact step_length_lt ‹_›

theorem steps_of_none {c : Cursor} (h : c.step = none) : c.steps = [] := by
  rw [steps]
  split
  · rfl
  next hs => rw [h] at hs; cases hs

theorem steps_of_some {c d : Cursor} {r : Except DecodeError Command} (h : c.step = some (r, d)) :
    c.steps = (r, d) :: d.steps := by
  rw [steps]
  split
  next hs => rw [h] at hs; cases hs
  next hs => rw [h] at hs; cases hs; rfl

end BandCanvas.Cursor

namespace BandCanvas.Command

/-- The commands of a stream without the malformed ones. -/
def decodeAll (text : String) : List Command :=
  (Cursor.start text.toList).steps.filterMap fun s => s.1.toOption

end BandCanvas.Command
