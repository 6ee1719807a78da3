import BandCanvas.Number.Decimal

namespace BandCanvas

structure Font where
  family : String
  size : Float
  style : UInt8
  deriving DecidableEq

structure FontMetrics where
  flags : Float
  top : Float
  ascent : Float
  descent : Float
  bottom : Float
  leading : Float
  averageWidth : Float
  maximumWidth : Float
  underlineThickness : Float
  underlinePosition : Float
  deriving DecidableEq

namespace Font

def bold (f : Font) : Bool := f.style &&& 1 != 0
def italic (f : Font) : Bool := f.style &&& 2 != 0
def underline (f : Font) : Bool := f.style &&& 4 != 0
def strikeout (f : Font) : Bool := f.style &&& 8 != 0

def initial : Font :=
  ⟨"DejaVu Sans Condensed", 10, 0⟩

def css (f : Font) : String :=
  (if f.bold then "bold " else "") ++ (if f.italic then "italic " else "") ++
    Binary64.positional (Binary64.round f.size) ++ "px " ++ f.family

end Font

namespace FontMetrics

def zero : FontMetrics :=
  ⟨0, 0, 0, 0, 0, 0, 0, 0, 0, 0⟩

end FontMetrics

end BandCanvas
