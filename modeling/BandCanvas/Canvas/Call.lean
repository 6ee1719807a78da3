import BandCanvas.Font
import BandCanvas.Geometry.Affine
import BandCanvas.Geometry.Rect
import BandCanvas.Picture.Bitmap

namespace BandCanvas

inductive CanvasCall where
  | resize (width height : Nat)
  | save
  | restore
  | transform (map : Affine)
  | fillColor (color : Color)
  | strokeColor (color : Color)
  | lineWidth (width : Float)
  | font (font : Font)
  | clearRect (box : DeviceRect)
  | fillRect (box : DeviceRect)
  | strokeRect (box : DeviceRect)
  | beginPath
  | moveTo (x y : Float)
  | lineTo (x y : Float)
  | arcTo (x1 y1 x2 y2 radius : Float)
  | bezierTo (c1x c1y c2x c2y x y : Float)
  | rect (box : DeviceRect)
  | closePath
  | fill
  | stroke
  | fillText (text : String) (x y : Float) (maxWidth : Option Float)
  | strokeText (text : String) (x y : Float) (maxWidth : Option Float)
  | drawImage (picture : Bitmap) (source target : DeviceRect)
  deriving DecidableEq

end BandCanvas
