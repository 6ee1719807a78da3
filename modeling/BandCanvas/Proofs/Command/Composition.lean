import BandCanvas.Command.Decoder

namespace BandCanvas.Reader

/-- A reader put together from parts. The end of the text is only noticed at a missing letter or inside an
operand. -/
inductive Composed : {α : Type} → Reader α → Prop
  | pure {α : Type} (a : α) : Composed (pure a : Reader α)
  | bind {α β : Type} {r : Reader α} {f : α → Reader β} : Composed r → (∀ a, Composed (f a)) →
    Composed (r >>= f)
  | look {α : Type} (f : Cursor → α) : Composed (look f)
  | consume (f : List Char → List Char × List Char) (h : ∀ s, (f s).1 ++ (f s).2 = s) :
    Composed (consume f h)
  | number : Composed number
  | payload : Composed payload
  | color : Composed color
  | letter {α : Type} {f : Option Char → Reader α} :
    (f none = position >>= fun o => fail (.unexpectedEnd o)) → (∀ x, Composed (f (some x))) →
    Composed (next >>= f)

namespace Composed

theorem skip (n : Nat) : Composed (skip n) :=
  (consume _ _).bind fun _ => .pure ()

theorem next : Composed next :=
  (consume _ _).bind fun _ => .pure _

theorem eat (x : Char) : Composed (eat x) := by
  refine (look _).bind fun o => ?_
  split
  · exact (skip 1).bind fun _ => .pure true
  · exact .pure false

theorem skipPast (x : Char) : Composed (skipPast x) :=
  (consume _ _).bind fun _ => skip 1

theorem paintMode (default : PaintMode) : Composed (paintMode default) := by
  refine (look _).bind fun o => ?_
  split
  · exact (skip 1).bind fun _ => .pure _
  · exact .pure default

theorem string : Composed string :=
  payload.bind fun s => (skip 1).bind fun _ => .pure s

theorem rect : Composed rect :=
  number.bind fun _ => number.bind fun _ => number.bind fun _ => number.bind fun _ => .pure _

theorem bandHeader (paint : Bool) : Composed (bandHeader paint) :=
  string.bind fun _ => number.bind fun _ => next.bind fun _ => (skip 1).bind fun _ =>
    number.bind fun _ => number.bind fun _ => number.bind fun _ => .pure _

theorem image : Composed image :=
  number.bind fun _ => string.bind fun _ => number.bind fun _ => number.bind fun _ =>
    number.bind fun _ => number.bind fun _ => string.bind fun _ => string.bind fun _ =>
      string.bind fun _ => .pure _

theorem text : Composed text := by
  refine (paintMode _).bind fun _ => number.bind fun _ => number.bind fun _ =>
    payload.bind fun _ => (eat _).bind fun b => ?_
  cases b with
  | false => exact (skip 1).bind fun _ => .pure _
  | true => exact number.bind fun _ => .pure _

theorem fontMetrics : Composed fontMetrics :=
  number.bind fun _ => number.bind fun _ => number.bind fun _ => number.bind fun _ =>
    number.bind fun _ => number.bind fun _ => number.bind fun _ => number.bind fun _ =>
      number.bind fun _ => number.bind fun _ => .pure _

theorem font : Composed font := by
  refine (eat _).bind fun b => ?_
  cases b with
  | false => exact number.bind fun _ => number.bind fun _ => .pure _
  | true => exact fontMetrics.bind fun _ => .pure _

theorem transform : Composed transform := by
  refine next.bind fun o => ?_
  split
  · exact number.bind fun _ => number.bind fun _ => number.bind fun _ => .pure _
  · exact (skip 1).bind fun _ => .pure _
  · exact .pure _

theorem page : Composed page := by
  refine next.bind fun o => ?_
  split
  · exact number.bind fun _ => number.bind fun _ => .pure _
  · exact number.bind fun _ => number.bind fun _ => .pure _
  · exact .pure _

theorem optionalSubDocument : Composed optionalSubDocument := by
  refine (eat _).bind fun b => ?_
  cases b with
  | false => exact (skip 1).bind fun _ => .pure _
  | true => exact string.bind fun _ => payload.bind fun _ => (skip 1).bind fun _ => .pure _

theorem optionalText : Composed optionalText := by
  refine (eat _).bind fun b => ?_
  cases b with
  | false => exact (skip 1).bind fun _ => .pure _
  | true => exact payload.bind fun _ => (skip 1).bind fun _ => .pure _

theorem combo : Composed combo := by
  refine number.bind fun version => ?_
  split
  · exact string.bind fun _ => .pure _
  · exact number.bind fun _ => string.bind fun _ => string.bind fun _ => string.bind fun _ =>
      payload.bind fun _ => optionalText.bind fun _ => .pure _

theorem editMode : Composed editMode := by
  refine .letter rfl fun x => ?_
  split
  next => contradiction
  · exact (skip 1).bind fun _ => .pure _
  · exact optionalSubDocument.bind fun _ => .pure _
  · exact optionalSubDocument.bind fun _ => .pure _
  · exact optionalText.bind fun _ => .pure _
  · exact optionalText.bind fun _ => .pure _
  · exact combo.bind fun _ => .pure _
  · exact number.bind fun _ => string.bind fun _ => string.bind fun _ => .pure _
  · exact string.bind fun _ => .pure _
  · exact .pure _

theorem fieldValue : Composed fieldValue := by
  refine (eat _).bind fun b => ?_
  cases b with
  | false => exact payload.bind fun _ => .pure _
  | true => exact string.bind fun _ => string.bind fun _ => .pure _

theorem editorStart : Composed editorStart :=
  number.bind fun _ => number.bind fun _ => number.bind fun _ => number.bind fun _ =>
    fieldValue.bind fun _ => (skip 1).bind fun _ => .pure _

theorem moreTexts : Composed moreTexts := by
  refine (look _).bind fun o => ?_
  split
  · exact (skip 1).bind fun _ => .pure _
  · refine (skip 1).bind fun _ => payload.bind fun _ => (look _).bind fun o => ?_
    split
    · exact (skip 1).bind fun _ => .pure _
    · exact (skip 1).bind fun _ => string.bind fun _ => .pure _

theorem editorUpdate : Composed editorUpdate := by
  refine payload.bind fun _ => moreTexts.bind fun _ => (look _).bind fun o => ?_
  split
  · exact .pure _
  · exact string.bind fun _ => .pure _

theorem binding : Composed binding :=
  (consume _ _).bind fun _ => .pure _

theorem editor : Composed editor := by
  refine .letter rfl fun x => ?_
  split
  next => contradiction
  · exact binding.bind fun _ => .pure _
  · exact editMode.bind fun _ => .pure _
  · exact rect.bind fun _ => .pure _
  · exact editorStart.bind fun _ => .pure _
  · exact editorUpdate.bind fun _ => .pure _
  · exact (skip 1).bind fun _ => .pure _
  · exact (skip 1).bind fun _ => rect.bind fun _ => .pure _
  · exact rect.bind fun _ => string.bind fun _ => .pure _
  · exact .pure _

theorem command (code : Char) : Composed (command code) := by
  unfold Reader.command
  split
  · exact (eat _).bind fun _ => (skip 1).bind fun _ => .pure _
  · exact (bandHeader true).bind fun _ => .pure _
  · exact (bandHeader false).bind fun _ => .pure _
  · exact .pure _
  · exact number.bind fun _ => number.bind fun _ => number.bind fun _ => number.bind fun _ => .pure _
  · refine (eat _).bind fun b => ?_
    cases b with
    | false => exact (paintMode _).bind fun _ => rect.bind fun _ => .pure _
    | true => exact rect.bind fun _ => .pure _
  · exact (paintMode _).bind fun _ => number.bind fun _ => rect.bind fun _ => .pure _
  · exact text
  · exact color.bind fun _ => .pure _
  · exact color.bind fun _ => .pure _
  · exact color.bind fun _ => .pure _
  · exact number.bind fun _ => .pure _
  · exact (paintMode _).bind fun _ => rect.bind fun _ => .pure _
  · exact image.bind fun _ => .pure _
  · exact string.bind fun _ => .pure _
  · exact font
  · exact number.bind fun _ => number.bind fun _ => .pure _
  · exact transform
  · exact page
  · exact editor.bind fun _ => .pure _
  · exact (skipPast _).bind fun _ => .pure _
  · exact (skipPast _).bind fun _ => .pure _
  · exact .pure _
  · exact .pure _

end Composed

end BandCanvas.Reader
