import BandCanvas.Canvas.Call

namespace BandCanvas

structure Style where
  transform : Affine
  fill : Color
  stroke : Color
  lineWidth : Float
  font : Font
  deriving DecidableEq

namespace Style

def initial : Style :=
  ⟨Affine.identity, Color.black, Color.black, 1, Font.initial⟩

end Style

structure Pen where
  style : Style
  saved : List Style
  deriving DecidableEq

namespace Pen

def initial : Pen :=
  ⟨Style.initial, []⟩

def save (p : Pen) : Pen :=
  ⟨p.style, p.style :: p.saved⟩

def restore (p : Pen) : Pen :=
  match p.saved with
  | [] => p
  | s :: ss => ⟨s, ss⟩

def apply (p : Pen) : CanvasCall → Pen
  | .save => p.save
  | .restore => p.restore
  | .transform m => { p with style := { p.style with transform := m } }
  | .fillColor c => { p with style := { p.style with fill := c } }
  | .strokeColor c => { p with style := { p.style with stroke := c } }
  | .lineWidth w => { p with style := { p.style with lineWidth := w } }
  | .font f => { p with style := { p.style with font := f } }
  | _ => p

end Pen

end BandCanvas
