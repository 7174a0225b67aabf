import Artboard.Css.Length
import Artboard.Stroke.Spec
import Artboard.Text.Percent

/-!
# Dashed strokes

A dashed stroke is a drawing of its centre line behind the box. The canvas is
the box grown by the part of the stroke that lies outside; the centre line is
the box moved by half a weight inwards or outwards, or not at all. Corner radii
follow the centre line, and square corners stay square.
-/
namespace Artboard

variable {α : Type} [Scalar α]

/-- The canvas of a dashed stroke and the rectangle of its centre line. -/
structure DashFrame (α : Type) where
  width : α
  height : α
  /-- The distance of the centre line from the edge of the canvas. -/
  inset : α
  lineWidth : α
  lineHeight : α
  weight : α
  /-- How far the centre line lies outside the box. -/
  delta : α

namespace DashFrame

/-- How far the canvas lies outside the box on each side. -/
def growth (align : StrokeAlign) (weight : α) : α :=
  match align with
  | .center => weight / 2.0
  | .outside => weight
  | .inside => 0.0

/-- How far the centre line lies outside the box on each side. -/
def shift (align : StrokeAlign) (weight : α) : α :=
  match align with
  | .center => 0.0
  | .outside => weight / 2.0
  | .inside => -(weight / 2.0)

def ofBox (align : StrokeAlign) (weight width height : α) : DashFrame α :=
  let boxWidth := width + 2.0 * growth align weight
  let boxHeight := height + 2.0 * growth align weight
  { width := boxWidth, height := boxHeight, inset := weight / 2.0
    lineWidth := boxWidth - weight, lineHeight := boxHeight - weight
    weight, delta := shift align weight }

end DashFrame

/-- A step along an outline; an arc is a quarter of a circle, clockwise. -/
inductive PathStep (α : Type) where
  | moveTo (x y : α)
  | lineTo (x y : α)
  | arcTo (radius x y : α)
  | close

/-- What is stroked. -/
inductive DashShape (α : Type) where
  | ellipse (cx cy rx ry : α)
  | rect (x y width height radius : α)
  | path (steps : List (PathStep α))

/-- The outline of a rectangle with rounded corners, clockwise from the top left. -/
def roundedOutline (x y width height : α) (corners : Corners α) : List (PathStep α) :=
  let right := x + width
  let bottom := y + height
  [.moveTo (x + corners.topLeft) y,
   .lineTo (right - corners.topRight) y,
   .arcTo corners.topRight right (y + corners.topRight),
   .lineTo right (bottom - corners.bottomRight),
   .arcTo corners.bottomRight (right - corners.bottomRight) bottom,
   .lineTo (x + corners.bottomLeft) bottom,
   .arcTo corners.bottomLeft x (bottom - corners.bottomLeft),
   .lineTo x (y + corners.topLeft),
   .arcTo corners.topLeft (x + corners.topLeft) y,
   .close]

/-- The radius of a corner of the centre line. -/
def movedRadius (delta radius : α) : α :=
  if 0.0 < radius then Scalar.max (radius + delta) 0.0 else 0.0

namespace DashShape

def ofFrame (isEllipse : Bool) (radii : Option (Radii α)) (frame : DashFrame α) : DashShape α :=
  if isEllipse then
    .ellipse (frame.width / 2.0) (frame.height / 2.0) (frame.lineWidth / 2.0)
      (frame.lineHeight / 2.0)
  else
    let corners : Corners α :=
      match radii with
      | some radii => radii.toCorners.map (movedRadius frame.delta)
      | none => .all 0.0
    if corners.isUniform then
      .rect frame.inset frame.inset frame.lineWidth frame.lineHeight corners.topLeft
    else
      .path (roundedOutline frame.inset frame.inset frame.lineWidth frame.lineHeight corners)

end DashShape

namespace PathStep

def svg : PathStep α → String
  | moveTo x y => s!"M {Scalar.text x} {Scalar.text y}"
  | lineTo x y => s!"L {Scalar.text x} {Scalar.text y}"
  | arcTo radius x y =>
    s!"A {Scalar.text radius} {Scalar.text radius} 0 0 1 {Scalar.text x} {Scalar.text y}"
  | close => "Z "

end PathStep

def svgAttribute (name value : String) : String := s!" {name}=\"{value}\""

def svgNumber (name : String) (value : α) : String := svgAttribute name (Scalar.text value)

/-- The tag of a shape and the attributes of its geometry. -/
def DashShape.parts : DashShape α → String × String
  | .ellipse cx cy rx ry =>
    ("ellipse", svgNumber "cx" cx ++ svgNumber "cy" cy ++ svgNumber "rx" rx ++
      svgNumber "ry" ry)
  | .rect x y width height radius =>
    ("rect", svgNumber "x" x ++ svgNumber "y" y ++ svgNumber "width" width ++
      svgNumber "height" height ++
      (if Scalar.isZero radius then "" else svgNumber "rx" radius))
  | .path steps => ("path", svgAttribute "d" (String.intercalate " " (steps.map PathStep.svg)))

/-- The drawing of a dashed stroke. -/
def dashSvg (color : String) (dashPattern : List α) (frame : DashFrame α) (shape : DashShape α) :
    String :=
  let (tag, geometry) := shape.parts
  let dashes := String.intercalate " " (dashPattern.map fun dash => Css.number dash 2)
  let width := Scalar.text frame.width
  let height := Scalar.text frame.height
  "<svg" ++ svgAttribute "xmlns" "http://www.w3.org/2000/svg" ++
    svgAttribute "viewBox" s!"0 0 {width} {height}" ++ svgAttribute "width" width ++
    svgAttribute "height" height ++ "><" ++ tag ++ svgAttribute "stroke" color ++
    svgAttribute "stroke-dasharray" dashes ++ svgNumber "stroke-width" frame.weight ++ geometry ++
    svgAttribute "fill" "none" ++ "/></svg>"

/-- A drawing inside a stylesheet. -/
def svgDataUri (svg : String) : String :=
  s!"url(\"data:image/svg+xml,{String.ofList (Text.percentEncode svg.toList)}\")"

end Artboard
