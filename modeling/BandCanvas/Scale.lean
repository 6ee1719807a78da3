import BandCanvas.Geometry.Rect

namespace BandCanvas

structure Density where
  devicePixelRatio : Float
  backingStoreRatio : Float
  deriving DecidableEq

namespace Density

def standard : Density :=
  ⟨1, 1⟩

/-- The server renders for two densities. -/
def quantized (dpr : Float) : Float :=
  if dpr > 1.6 then 2 else 1

def ratio (d : Density) : Float :=
  quantized d.devicePixelRatio / if d.backingStoreRatio > 0 then d.backingStoreRatio else 1

end Density

/-- A page at a zoom. All sizes and scales are functions of these numbers. -/
structure Scale where
  ratio : Float
  pageWidth : Float
  pageHeight : Float
  zoom : Float
  deriving DecidableEq

namespace Scale

def maxEdge : Float := 16384

def clampZoom (zoom : Float) : Float :=
  if zoom.isFinite then Binary64.clamp 0.5 2 zoom else 1

def ofPage (density : Density) (width height zoom : Float) : Scale :=
  ⟨density.ratio, width, height, clampZoom zoom⟩

def withZoom (s : Scale) (zoom : Float) : Scale :=
  { s with zoom := clampZoom zoom }

def withPage (s : Scale) (width height : Float) : Scale :=
  { s with pageWidth := width, pageHeight := height }

def cssWidth (s : Scale) : Float :=
  Binary64.round (s.pageWidth * s.zoom)

def cssHeight (s : Scale) : Float :=
  Binary64.round (s.pageHeight * s.zoom)

def deviceEdge (s : Scale) (css : Float) : Nat :=
  let device := css * s.ratio
  if device.isFinite then Binary64.toNat32 (Binary64.clamp 0 maxEdge device) else 0

def deviceWidth (s : Scale) : Nat :=
  s.deviceEdge s.cssWidth

def deviceHeight (s : Scale) : Nat :=
  s.deviceEdge s.cssHeight

def isMeasured (s : Scale) : Bool :=
  s.cssWidth * s.ratio > 0 && s.pageWidth > 0

/-- The scale the server renders with. -/
def toCanvas (s : Scale) : Float :=
  if s.isMeasured then Binary64.round2 (s.cssWidth * s.ratio / s.pageWidth) else Binary64.nan

def toDocument (s : Scale) : Float :=
  if s.isMeasured then s.pageWidth * s.ratio / (s.cssWidth * s.ratio) else Binary64.nan

def pointerToServer? (s : Scale) (x y : Float) : Option (Float × Float) :=
  if s.toDocument.isFinite then
    some (Binary64.round2 (x * s.toDocument), Binary64.round2 (y * s.toDocument))
  else none

def cssToDevice (s : Scale) (x : Float) : Float :=
  x * s.ratio

def deviceToCss (s : Scale) (r : DeviceRect) : CssRect :=
  CssRect.ofDevice s.ratio r

end Scale

end BandCanvas
