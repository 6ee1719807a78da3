import Mathlib.Algebra.Group.Nat.Defs
import BandCanvas.Command.Basic
import BandCanvas.Number.Rounding
import BandCanvas.Number.Decimal
import BandCanvas.Text.Hex

namespace BandCanvas

inductive Separator where
  | comma | semicolon
  deriving DecidableEq, Repr

def Separator.char : Separator → Char
  | comma => ','
  | semicolon => ';'

/-- A number as it is written: a minus, digits, a point and more digits. Digits may be missing on
either side of the point. -/
structure NumberText where
  negative : Bool
  whole : List Char
  fraction : Option (List Char)
  separator : Separator
  digits : ∀ c ∈ whole ++ fraction.getD [], c.isDigit

namespace NumberText

def places (n : NumberText) : List Char :=
  n.fraction.getD []

def magnitude (n : NumberText) : List Char :=
  n.whole ++ match n.fraction with
    | none => []
    | some ds => '.' :: ds

def numeral (n : NumberText) : List Char :=
  (if n.negative then ['-'] else []) ++ n.magnitude

def text (n : NumberText) : List Char :=
  n.numeral ++ [n.separator.char]

/-- The binary64 number nearest to the decimal. -/
def value (n : NumberText) : Float :=
  Decimal.read n.negative ⟨Decimal.natOfDigits (n.whole ++ n.places), -n.places.length⟩

end NumberText

/-- A text after the number of its characters. -/
structure CountedText where
  count : NumberText
  content : String
  counts : count.value = content.length.toFloat
  short : content.length < 2 ^ 53

def CountedText.text (t : CountedText) : List Char :=
  t.count.text ++ t.content.toList

structure HexDigitText where
  value : Fin 16
  upper : Bool
  deriving DecidableEq, Repr

def HexDigitText.char (d : HexDigitText) : Char :=
  if d.upper then Hex.upperDigit d.value else Hex.lowerDigit d.value

structure ByteText where
  high : HexDigitText
  low : HexDigitText
  deriving DecidableEq, Repr

namespace ByteText

def text (b : ByteText) : List Char :=
  [b.high.char, b.low.char]

def value (b : ByteText) : UInt8 :=
  UInt8.ofNat (16 * b.high.value + b.low.value)

end ByteText

structure ColorText where
  red : ByteText
  green : ByteText
  blue : ByteText
  separator : Separator
  deriving DecidableEq, Repr

namespace ColorText

def text (c : ColorText) : List Char :=
  c.red.text ++ c.green.text ++ c.blue.text ++ [c.separator.char]

def value (c : ColorText) : Color :=
  .opaqueOf c.red.value c.green.value c.blue.value

end ColorText

structure BoxText where
  x : NumberText
  y : NumberText
  width : NumberText
  height : NumberText

namespace BoxText

def text (b : BoxText) : List Char :=
  b.x.text ++ b.y.text ++ b.width.text ++ b.height.text

def value (b : BoxText) : DeviceRect :=
  ⟨b.x.value, b.y.value, b.width.value, b.height.value⟩

end BoxText

/-- Names in braces with commas between them. -/
structure FieldsText where
  names : List String
  plain : ∀ n ∈ names, ',' ∉ n.toList
  list : CountedText
  braced : list.content.toList =
    '{' :: [','].intercalate (names.map String.toList) ++ ['}']

/-- Empty braces hold no name. -/
def FieldsText.value (f : FieldsText) : List String :=
  if f.names = [""] then [] else f.names

structure SubDocumentText where
  uri : CountedText
  report : CountedText

namespace SubDocumentText

def text (d : SubDocumentText) : List Char :=
  d.uri.text ++ ',' :: d.report.text

def value (d : SubDocumentText) : SubDocument where
  uri := if d.uri.content = "" then none else some d.uri.content
  report := if d.report.content = "" then none else some d.report.content

end SubDocumentText

def ending : Option (List Char) → List Char
  | none => [';']
  | some s => ',' :: s ++ [';']

inductive EditModeText where
  | text
  | readOnly (document : Option SubDocumentText)
  | date (pattern : Option CountedText)
  | number (pattern : Option CountedText)
  | comboBinding (version : NumberText) (second : (version.value == 2) = true) (json : CountedText)
  | comboInline (version : NumberText) (other : (version.value == 2) = false) (nullable : NumberText)
      (fields : FieldsText) (listId : CountedText) (document : SubDocumentText)
      (list : Option CountedText)
  | serverCombo (document : Option SubDocumentText)
  | ledgerCombo (fields : FieldsText)
  | fieldArray (row : NumberText) (name values : CountedText)

namespace EditModeText

def chars : EditModeText → List Char
  | text => ['t', ';']
  | readOnly d => 'r' :: ending (d.map SubDocumentText.text)
  | date p => 'd' :: ending (p.map CountedText.text)
  | number p => 'n' :: ending (p.map CountedText.text)
  | comboBinding v _ json => 'c' :: v.text ++ json.text ++ [';']
  | comboInline v _ nullable fields listId d list =>
    'c' :: v.text ++ nullable.text ++ fields.list.text ++ ',' :: listId.text ++ ',' :: d.text ++
      ending (list.map CountedText.text)
  | serverCombo d => 'C' :: ending (d.map SubDocumentText.text)
  | ledgerCombo fields => 'l' :: fields.list.text ++ [';']
  | fieldArray row name values => 'R' :: row.text ++ name.text ++ ',' :: values.text ++ [';']

/-- A combo box without an address and a report has no sub-document. -/
def meaning : EditModeText → EditMode
  | text => .text
  | readOnly d => .readOnly (d.map SubDocumentText.value)
  | date p => .date (p.map CountedText.content)
  | number p => .number (p.map CountedText.content)
  | comboBinding _ _ json => .combo (.binding json.content)
  | comboInline _ _ nullable fields listId d list =>
    .combo (.inline (nullable.value != 0) fields.value listId.content
      (if d.value = ⟨none, none⟩ then none else some d.value) (list.map CountedText.content))
  | serverCombo d => .serverCombo (d.map SubDocumentText.value)
  | ledgerCombo fields => .ledgerCombo fields.value
  | fieldArray row name values =>
    .fieldArray (Binary64.toInt64 row.value) name.content values.content

end EditModeText

inductive FieldValueText where
  | plain (value : CountedText)
  | keyed (id value : CountedText)

namespace FieldValueText

def text : FieldValueText → List Char
  | plain v => v.text
  | keyed id v => '{' :: id.text ++ ',' :: v.text ++ ['}']

def value : FieldValueText → FieldValue
  | plain v => .plain v.content
  | keyed id v => .keyed id.content v.content

end FieldValueText

inductive UpdateText where
  | one (first : CountedText)
  | two (first second : CountedText)
  | three (first second third : CountedText)
  | four (first second third json : CountedText)

namespace UpdateText

def text : UpdateText → List Char
  | one a => a.text ++ [';']
  | two a b => a.text ++ ',' :: b.text ++ [';']
  | three a b c => a.text ++ ',' :: b.text ++ ',' :: c.text ++ [';']
  | four a b c json => a.text ++ ',' :: b.text ++ ',' :: c.text ++ ',' :: json.text ++ [';']

def value : UpdateText → EditorUpdate
  | one a => ⟨a.content, "", "", none⟩
  | two a b => ⟨a.content, b.content, "", none⟩
  | three a b c => ⟨a.content, b.content, c.content, none⟩
  | four a b c json => ⟨a.content, b.content, c.content, some json.content⟩

end UpdateText

def PaintMode.letter : PaintMode → Char
  | stroke => 'S'
  | fill => 'F'
  | both => 'P'

def letters (mode : Option PaintMode) : List Char :=
  (mode.map PaintMode.letter).toList

def textEnding : Option NumberText → List Char
  | none => [';']
  | some width => ',' :: width.text

inductive Phrase where
  | reset (hard : Bool)
  | band (paint : Bool) (kind : CountedText) (id : NumberText) (editable : Bool)
      (height x y : NumberText)
  | update
  | line (x1 y1 x2 y2 : NumberText)
  | clearRect (box : BoxText)
  | rect (mode : Option PaintMode) (box : BoxText)
  | roundRect (mode : Option PaintMode) (radius : NumberText) (box : BoxText)
  | text (mode : Option PaintMode) (x y : NumberText) (content : CountedText)
      (maxWidth : Option NumberText)
  | fillColor (color : ColorText)
  | textColor (color : ColorText)
  | strokeColor (color : ColorText)
  | lineWidth (width : NumberText)
  | ellipse (mode : Option PaintMode) (box : BoxText)
  | image (id : NumberText) (path : CountedText) (top left bottom right : NumberText)
      (fit horizontal vertical : CountedText)
  | fontFamily (family : CountedText)
  | font (style size : NumberText)
  | fontMetrics (flags top ascent descent bottom leading averageWidth maximumWidth underlineThickness
      underlinePosition : NumberText)
  | legacyOrigin (x y : NumberText)
  | transform (dx dy angle : NumberText)
  | resetTransform
  | grid (major minor : NumberText)
  | page (number count : NumberText)
  | path (body : List Char) (unbroken : ';' ∉ body)
  | linePattern (body : List Char) (unbroken : ';' ∉ body)
  | separator
  | configure (mode : EditModeText)
  | prepare (box : BoxText)
  | start (x baseline height band : NumberText) (value : FieldValueText)
  | updateEditor (content : UpdateText)
  | finish
  | debugBox (box : BoxText)
  | hint (box : BoxText) (content : CountedText)

namespace Phrase

def chars : Phrase → List Char
  | reset hard => 'Z' :: (if hard then [] else ['d']) ++ [';']
  | band paint kind id editable height x y =>
    (if paint then 'B' else 'b') :: kind.text ++ ',' :: id.text ++
      (if editable then 't' else 'f') :: ',' :: height.text ++ x.text ++ y.text
  | update => ['U']
  | line x1 y1 x2 y2 => 'L' :: x1.text ++ y1.text ++ x2.text ++ y2.text
  | clearRect box => 'R' :: 'C' :: box.text
  | rect mode box => 'R' :: letters mode ++ box.text
  | roundRect mode radius box => 'r' :: letters mode ++ radius.text ++ box.text
  | text mode x y content maxWidth =>
    'T' :: letters mode ++ x.text ++ y.text ++ content.text ++ textEnding maxWidth
  | fillColor color => 'C' :: color.text
  | textColor color => 'c' :: color.text
  | strokeColor color => 's' :: color.text
  | lineWidth width => 'w' :: width.text
  | ellipse mode box => 'E' :: letters mode ++ box.text
  | image id file top left bottom right fit horizontal vertical =>
    'I' :: id.text ++ file.text ++ ',' :: top.text ++ left.text ++ bottom.text ++ right.text ++
      fit.text ++ ',' :: horizontal.text ++ ',' :: vertical.text ++ [';']
  | fontFamily family => 'F' :: family.text ++ [';']
  | font style size => 'f' :: style.text ++ size.text
  | fontMetrics flags top ascent descent bottom leading averageWidth maximumWidth underlineThickness
      underlinePosition =>
    'f' :: 'm' :: flags.text ++ top.text ++ ascent.text ++ descent.text ++ bottom.text ++
      leading.text ++ averageWidth.text ++ maximumWidth.text ++ underlineThickness.text ++
      underlinePosition.text
  | legacyOrigin x y => 'X' :: x.text ++ y.text
  | transform dx dy angle => 't' :: 'r' :: dx.text ++ dy.text ++ angle.text
  | resetTransform => ['t', 'c', ';']
  | grid major minor => 'k' :: 'g' :: major.text ++ minor.text
  | page number count => 'k' :: 'p' :: number.text ++ count.text
  | path body _ => 'P' :: body ++ [';']
  | linePattern body _ => 'p' :: body ++ [';']
  | separator => [';']
  | configure mode => 'e' :: 'c' :: mode.chars
  | prepare box => 'e' :: 'p' :: box.text
  | start x baseline height owner value =>
    'e' :: 's' :: x.text ++ baseline.text ++ height.text ++ owner.text ++ value.text ++ [';']
  | updateEditor content => 'e' :: 'u' :: content.text
  | finish => ['e', 'f', ';']
  | debugBox box => 'e' :: 'b' :: ',' :: box.text
  | hint box content => 'e' :: 'h' :: box.text ++ content.text ++ [';']

def meaning : Phrase → Command
  | reset hard => .reset hard
  | band paint kind id editable height x y =>
    .band ⟨paint, kind.content, Binary64.toInt64 id.value, editable, height.value, x.value, y.value⟩
  | update => .update
  | line x1 y1 x2 y2 => .line x1.value y1.value x2.value y2.value
  | clearRect box => .rect .clear box.value
  | rect mode box => .rect (.paint (mode.getD .stroke)) box.value
  | roundRect mode radius box => .roundRect (mode.getD .stroke) radius.value box.value
  | text mode x y content maxWidth =>
    .text (mode.getD .fill) x.value y.value content.content (maxWidth.map NumberText.value)
  | fillColor color => .fillColor color.value
  | textColor color => .textColor color.value
  | strokeColor color => .strokeColor color.value
  | lineWidth width => .lineWidth width.value
  | ellipse mode box => .ellipse (mode.getD .fill) box.value
  | image id file top left bottom right fit horizontal vertical =>
    .image ⟨Binary64.toInt64 id.value, file.content,
      ⟨⟨top.value, left.value, bottom.value, right.value⟩, FitMode.ofCode fit.content,
        HorizontalAnchor.ofCode horizontal.content, VerticalAnchor.ofCode vertical.content⟩⟩
  | fontFamily family => .fontFamily family.content
  | font style size => .font style.value.toUInt8 (Binary64.round size.value)
  | fontMetrics flags top ascent descent bottom leading averageWidth maximumWidth underlineThickness
      underlinePosition =>
    .fontMetrics ⟨flags.value, top.value, ascent.value, descent.value, bottom.value, leading.value,
      averageWidth.value, maximumWidth.value, underlineThickness.value, underlinePosition.value⟩
  | legacyOrigin x y => .legacyOrigin x.value y.value
  | transform dx dy angle => .transform dx.value dy.value angle.value
  | resetTransform => .resetTransform
  | grid major minor => .grid major.value minor.value
  | page number count => .page (Binary64.toNat32 number.value) (Binary64.toNat32 count.value)
  | path _ _ => .reserved 'P'
  | linePattern _ _ => .reserved 'p'
  | separator => .separator
  | configure mode => .editor (.configure mode.meaning)
  | prepare box => .editor (.prepare box.value)
  | start x baseline height owner value =>
    .editor (.start ⟨x.value, baseline.value, height.value, Binary64.toInt64 owner.value, value.value⟩)
  | updateEditor content => .editor (.update content.value)
  | finish => .editor .finish
  | debugBox box => .editor (.debugBox box.value)
  | hint box content => .editor (.hint box.value content.content)

end Phrase

/-- A whole stream: phrases, and perhaps a binding for the field editor, which has to come last. -/
structure Script where
  phrases : List Phrase
  binding : Option String

namespace Script

def commands (s : Script) : List (List Char × Command) :=
  s.phrases.map (fun p => (p.chars, p.meaning)) ++
    (s.binding.map fun json => ('e' :: 'a' :: json.toList ++ [';'], Command.editor (.attach json))).toList

def text (s : Script) : List Char :=
  s.commands.flatMap Prod.fst

end Script

end BandCanvas
