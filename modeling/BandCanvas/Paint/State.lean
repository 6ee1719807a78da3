import BandCanvas.Canvas.Call

namespace BandCanvas

structure PaintState where
  fill : Color
  text : Color
  stroke : Color
  lineWidth : Float
  font : Font
  metrics : FontMetrics
  transform : Affine
  deriving DecidableEq

namespace PaintState

def initial : PaintState where
  fill := Color.white
  text := Color.black
  stroke := Color.black
  lineWidth := 1
  font := Font.initial
  metrics := FontMetrics.zero
  transform := Affine.identity

def styleCalls (s : PaintState) : List CanvasCall :=
  [.transform s.transform, .fillColor s.fill, .strokeColor s.stroke, .lineWidth s.lineWidth,
    .font s.font]

end PaintState

end BandCanvas
