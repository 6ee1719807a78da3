import BandCanvas.Color
import BandCanvas.Font
import BandCanvas.Picture.Fit

namespace BandCanvas

inductive PaintMode where
  | stroke | fill | both
  deriving DecidableEq, Repr

namespace PaintMode

def fills : PaintMode → Bool
  | stroke => false
  | fill | both => true

def strokes : PaintMode → Bool
  | fill => false
  | stroke | both => true

def ofLetter? : Char → Option PaintMode
  | 'S' => some stroke
  | 'F' => some fill
  | 'P' => some both
  | _ => none

end PaintMode

inductive RectAction where
  | paint (mode : PaintMode)
  | clear
  deriving DecidableEq, Repr

/-- A band as a stream defines it. A band that is not painted only records its commands. -/
structure BandHeader where
  paint : Bool
  kind : String
  id : Int
  editable : Bool
  height : Float
  x : Float
  y : Float
  deriving DecidableEq

structure ImageCommand where
  id : Int
  path : String
  fitting : Fitting Float
  deriving DecidableEq

/-- The document behind a field; an empty name is no name. -/
structure SubDocument where
  uri : Option String
  report : Option String
  deriving DecidableEq, Repr

inductive ComboMode where
  | binding (json : String)
  | inline (nullable : Bool) (fields : List String) (listId : String)
      (subDocument : Option SubDocument) (list : Option String)
  deriving DecidableEq, Repr

/-- How the field under the overlay is edited. -/
inductive EditMode where
  | text
  | readOnly (subDocument : Option SubDocument)
  | date (pattern : Option String)
  | number (pattern : Option String)
  | combo (mode : ComboMode)
  | serverCombo (subDocument : Option SubDocument)
  | ledgerCombo (fields : List String)
  /-- A parameter when `row` is `-1`, else a field of that row. -/
  | fieldArray (row : Int) (name : String) (values : String)
  | other (tag : Char)
  deriving DecidableEq, Repr

namespace EditMode

def tag : EditMode → Char
  | text => 't'
  | readOnly _ => 'r'
  | date _ => 'd'
  | number _ => 'n'
  | combo _ => 'c'
  | serverCombo _ => 'C'
  | ledgerCombo _ => 'l'
  | fieldArray .. => 'R'
  | other c => c

def subDocument : EditMode → Option SubDocument
  | readOnly d | serverCombo d => d
  | combo (.inline _ _ _ d _) => d
  | _ => none

end EditMode

inductive FieldValue where
  | plain (value : String)
  | keyed (id : String) (value : String)
  deriving DecidableEq, Repr

/-- Where the server drew the text of the edited field, and the field's value. -/
structure EditorStart where
  x : Float
  baseline : Float
  height : Float
  band : Int
  value : FieldValue
  deriving DecidableEq

structure EditorUpdate where
  first : String
  second : String
  third : String
  json : Option String
  deriving DecidableEq, Repr

inductive EditorCommand where
  | attach (json : String)
  | configure (mode : EditMode)
  /-- The overlay's box. What follows in the stream belongs to the overlay. -/
  | prepare (box : DeviceRect)
  | start (field : EditorStart)
  | update (content : EditorUpdate)
  | finish
  | debugBox (box : DeviceRect)
  | hint (box : DeviceRect) (text : String)
  | other (code : Char)
  deriving DecidableEq

inductive Command where
  | reset (hard : Bool)
  | band (header : BandHeader)
  | update
  | line (x1 y1 x2 y2 : Float)
  | rect (action : RectAction) (box : DeviceRect)
  | roundRect (mode : PaintMode) (radius : Float) (box : DeviceRect)
  | text (mode : PaintMode) (x y : Float) (content : String) (maxWidth : Option Float)
  | fillColor (color : Color)
  | textColor (color : Color)
  | strokeColor (color : Color)
  | lineWidth (width : Float)
  | ellipse (mode : PaintMode) (box : DeviceRect)
  | image (picture : ImageCommand)
  | fontFamily (family : String)
  | font (style : UInt8) (size : Float)
  | fontMetrics (metrics : FontMetrics)
  | legacyOrigin (x y : Float)
  | transform (dx dy angle : Float)
  | resetTransform
  | grid (major minor : Float)
  | page (number count : Nat)
  | editor (command : EditorCommand)
  | reserved (code : Char)
  | separator
  | unknown (code : Char)
  deriving DecidableEq

end BandCanvas
