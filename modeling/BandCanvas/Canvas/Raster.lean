import BandCanvas.Canvas.Path
import BandCanvas.Canvas.Pen
import BandCanvas.Canvas.Segment

namespace BandCanvas

/-- `backdrop` is the color that clearing leaves behind. -/
structure Raster where
  pixels : Bitmap
  backdrop : Color
  pen : Pen
  path : Path

namespace Raster

def ofSize (width height : Nat) (backdrop : Color) : Raster :=
  ⟨Bitmap.blank width height, backdrop, Pen.initial, Path.empty⟩

def transform (r : Raster) : Affine :=
  r.pen.style.transform

/-- A canvas of another size starts transparent; one of the same size keeps its pixels. -/
def resize (width height : Nat) (r : Raster) : Raster :=
  if r.pixels.width = width ∧ r.pixels.height = height then r
  else { r with pixels := Bitmap.blank width height }

def outline (r : Raster) (box : DeviceRect) : List Point :=
  box.corners.map r.transform.applyPoint

def fillOutlines (f : Color → Color) (outlines : List (List Point)) (r : Raster) : Raster :=
  { r with pixels := r.pixels.fillOutlines f outlines }

/-- The width of strokes on a bitmap: that of the style, from one pixel up to twice the diagonal. -/
def strokeWidth (style : Style) (b : Bitmap) : Nat :=
  let width := style.lineWidth * style.transform.determinant.abs.sqrt
  let most := 2 * Binary64.hypot b.width.toFloat b.height.toFloat + 2
  if width.isFinite then Binary64.toNat32 (Binary64.clamp 1 most (Binary64.round width)) else 1

/-- Strokes the line through some points; a single point becomes a dot. -/
def strokeLine (style : Style) (closed : Bool) (points : List Point) (b : Bitmap) : Bitmap :=
  let brush : Brush := ⟨strokeWidth style b⟩
  match points with
  | [p] => brush.stamp style.stroke (Pixel.ofPoint p) b
  | _ => (Segment.ofPoints closed points).foldl (fun b s => s.paint brush style.stroke b) b

def stroke (lines : List (Bool × List Point)) (r : Raster) : Raster :=
  let pixels := lines.foldl (fun b (closed, points) => strokeLine r.pen.style closed points b) r.pixels
  { r with pixels }

/-- What a picture shows at a place of its target, with `some none` where there is no pixel to show. -/
def sample? (picture : Bitmap) (source target : DeviceRect) (x y : Float) : Option (Option Color) :=
  let fx := (x - target.x) / target.width
  let fy := (y - target.y) / target.height
  if 0 ≤ fx && fx < 1 && 0 ≤ fy && fy < 1 then
    let sx := Binary64.floor (source.x + fx * source.width)
    let sy := Binary64.floor (source.y + fy * source.height)
    if sx < 0 || sy < 0 || sx ≥ picture.width.toFloat || sy ≥ picture.height.toFloat then none
    else some (picture.get? (Binary64.toNat32 sx) (Binary64.toNat32 sy))
  else none

def span (places : List Float) (size : Nat) : Nat × Nat :=
  let least := places.foldl Binary64.least Binary64.infinity
  let greatest := places.foldl Binary64.greatest (-Binary64.infinity)
  let start := Binary64.toNat32 (Binary64.greatest (Binary64.floor least) 0)
  (start, Binary64.toNat32 (Binary64.least (Binary64.ceil greatest) size.toFloat) - start)

/-- Paints a part of a picture into a box. It fails where there is no pixel to show. -/
def drawImage? (picture : Bitmap) (source target : DeviceRect) (r : Raster) : Option Raster :=
  if target.width ≤ 0 || target.height ≤ 0 || source.width ≤ 0 || source.height ≤ 0 then some r
  else
    match r.transform.invert? with
    | none => some r
    | some inverse =>
      let corners := r.outline target
      let (x, width) := span (corners.map Point.x) r.pixels.width
      let (y, height) := span (corners.map Point.y) r.pixels.height
      let sample (y x : Nat) : Option (Option Color) :=
        let (ux, uy) := inverse.apply (x.toFloat + 0.5) (y.toFloat + 0.5)
        sample? picture source target ux uy
      let paint (y x : Nat) (c : Color) : Color :=
        match sample y x with
        | some (some upper) => upper.blendOver c
        | _ => c
      if (List.range' y height).any fun y => (List.range' x width).any fun x => sample y x = some none then none
      else
        some { r with pixels := r.pixels.forRows (fun y b => b.modifyRun (paint y) y x (x + width)) y (y + height) }

/-- What a call does to the canvas. A call that fails leaves it as it is. -/
def apply (r : Raster) : CanvasCall → Raster
  | .resize w h => r.resize w h
  | .lineWidth w => if w.isFinite && w > 0 then { r with pen := r.pen.apply (.lineWidth w) } else r
  | .clearRect box => r.fillOutlines (fun _ => r.backdrop) [r.outline box]
  | .fillRect box => r.fillOutlines r.pen.style.fill.blendOver [r.outline box]
  | .strokeRect box => r.stroke [(true, r.outline box)]
  | .beginPath => { r with path := Path.empty }
  | .moveTo x y => { r with path := r.path.moveTo r.transform (.ofXY x y) }
  | .lineTo x y => { r with path := r.path.lineTo r.transform (.ofXY x y) }
  | .arcTo x1 y1 x2 y2 radius =>
    { r with path := r.path.arcTo r.transform (.ofXY x1 y1) (.ofXY x2 y2) radius }
  | .bezierTo c1x c1y c2x c2y x y =>
    { r with path := r.path.bezierTo r.transform (.ofXY c1x c1y) (.ofXY c2x c2y) (.ofXY x y) }
  | .rect box => { r with path := r.path.rect r.transform box }
  | .closePath => { r with path := r.path.close }
  | .fill => r.fillOutlines r.pen.style.fill.blendOver r.path.outlines
  | .stroke => r.stroke (r.path.subpaths.reverse.map fun s => (s.closed, s.points.reverse))
  | .drawImage picture source target => (r.drawImage? picture source target).getD r
  | .fillText .. => r
  | .strokeText .. => r
  | call => { r with pen := r.pen.apply call }

/-- What a call does to the canvas, unless it fails. -/
def applied? (r : Raster) : CanvasCall → Option Raster
  | .drawImage picture source target => r.drawImage? picture source target
  | call => some (r.apply call)

end Raster

end BandCanvas
