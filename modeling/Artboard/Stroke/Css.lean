import Artboard.Effects
import Artboard.Paint.Outline
import Artboard.Stroke.Dash

/-!
# Strokes in a stylesheet

A uniform solid stroke is an inset shadow, a border or an outline of its box.
Every other stroke is drawn by a pseudo-element over the box: a border, a drawing
with exact dashes, or a gradient seen through a ring. The stroke of a text is a
stroke of its glyphs, and vector content already contains its strokes.
-/
namespace Artboard

variable {α : Type} [Scalar α]

structure StrokeCss where
  css : Css.Declarations
  boxShadows : List String
  pseudo : Option Css.Declarations

namespace StrokeCss

def none : StrokeCss := ⟨.empty, [], .none⟩

def inline (declarations : List Css.Declaration) : StrokeCss := { none with css := .ofList declarations }

def shadow (token : String) : StrokeCss := { none with boxShadows := [token] }

def overlay (declarations : List Css.Declaration) : StrokeCss :=
  { none with pseudo := some (.ofList declarations) }

end StrokeCss

/-- The types of nodes that are drawn as rectangles. -/
def rectangularTypes : List String :=
  ["RECTANGLE", "FRAME", "INSTANCE", "COMPONENT", "COMPONENT_SET"]

/-- The rule of a node's pseudo-element. -/
def pseudoSelector (nodeId : String) : String := s!"[data-layer-id=\"{nodeId}\"]::before"

def pseudoBase : List Css.Declaration :=
  [("content", "\"\""), ("position", "absolute"), ("z-index", "0"), ("pointer-events", "none")]

/-- How far a pseudo-element lies inside its box on each side; negative outside. -/
def pseudoInsets (align : StrokeAlign) (weights : Sides α) : Sides α :=
  match align with
  | .center => weights.map fun weight => -weight / 2.0
  | .outside => weights.map fun weight => -weight
  | .inside => ⟨0.0, 0.0, 0.0, 0.0⟩

def insetDeclarations (align : StrokeAlign) (weights : Sides α) : List Css.Declaration :=
  let sides := pseudoInsets align weights
  if align = .inside then [("inset", "0")]
  else if sides.isUniform then [("inset", Css.px sides.top)]
  else
    [("top", Css.px sides.top), ("right", Css.px sides.right), ("bottom", Css.px sides.bottom),
     ("left", Css.px sides.left)]

/-- A corner that is not square grows with the weights of the two sides that meet in it. -/
def grownCorner (factor radius first second : α) : α :=
  if 0.0 < radius then radius + (first + second) * factor else 0.0

def grownCorners (align : StrokeAlign) (weights : Sides α) (corners : Corners α) : Corners α :=
  if align = .inside then corners
  else
    let factor : α := if align = .center then 0.25 else 0.5
    ⟨grownCorner factor corners.topLeft weights.top weights.left,
      grownCorner factor corners.topRight weights.top weights.right,
      grownCorner factor corners.bottomRight weights.bottom weights.right,
      grownCorner factor corners.bottomLeft weights.bottom weights.left⟩

/-- The radius of a pseudo-element, unless all its corners are square. -/
def grownRadius (radii : Option (Radii α)) (align : StrokeAlign) (weights : Sides α) :
    Option String :=
  match radii with
  | none => none
  | some radii =>
    let corners := grownCorners align weights radii.toCorners
    if corners.isZero then none
    else if corners.isUniform then some (Css.px corners.topLeft)
    else some (Paint.cornersCss corners)

namespace StrokeSpec

/-- A border with one width, or with a width for each side. -/
def borderDeclarations (spec : StrokeSpec α) (color : String) : List Css.Declaration :=
  let style := borderStyle spec.dashPattern
  if spec.weights.isUniform then [("border", s!"{Css.px spec.weights.top} {style} {color}")]
  else
    [("border-style", style), ("border-color", color),
     ("border-width", String.intercalate " " (spec.weights.toList.map Css.px))]

def radiusDeclarations (radius : Option String) : List Css.Declaration :=
  match radius with
  | some radius => [("border-radius", radius)]
  | none => []

def borderPseudo (spec : StrokeSpec α) (color : String) (node : NodeProps α) :
    List Css.Declaration :=
  pseudoBase ++ insetDeclarations spec.align spec.weights ++ spec.borderDeclarations color ++
    radiusDeclarations (grownRadius node.style.radii spec.align spec.weights)

def dashPseudo (spec : StrokeSpec α) (color : String) (node : NodeProps α) (width height : α) :
    List Css.Declaration :=
  let frame := DashFrame.ofBox spec.align spec.weights.top width height
  let shape := DashShape.ofFrame (node.type = "ELLIPSE") node.style.radii frame
  pseudoBase ++ insetDeclarations spec.align spec.weights ++
    [("background",
      svgDataUri (dashSvg color spec.dashPattern frame shape) ++ " 0 0/100% 100% no-repeat")]

def gradientPseudo (spec : StrokeSpec α) (value : String) (node : NodeProps α) :
    List Css.Declaration :=
  let padding :=
    if spec.weights.isUniform then Css.px spec.weights.top
    else String.intercalate " " (spec.weights.toList.map Css.px)
  pseudoBase ++ insetDeclarations spec.align spec.weights ++
    [("padding", padding), ("background", value),
     ("border-radius", (grownRadius node.style.radii spec.align spec.weights).getD "inherit"),
     ("-webkit-mask", "linear-gradient(#fff 0 0) content-box, linear-gradient(#fff 0 0)"),
     ("-webkit-mask-composite", "xor"), ("mask-composite", "exclude")]

/-- The stroke of the glyphs of a text; a gradient has none. -/
def textStroke (spec : StrokeSpec α) : StrokeCss :=
  match spec.paint with
  | .solid color =>
    .inline ([("-webkit-text-stroke", s!"{Css.px spec.weights.max} {color}")] ++
      if spec.align = .outside then [("paint-order", "stroke fill")] else [])
  | .gradient _ => .none

/-- A uniform solid stroke without dashes, drawn by the box itself. -/
def nativeStroke (spec : StrokeSpec α) (color : String) : StrokeCss :=
  let width := Css.px spec.weights.top
  match spec.align with
  | .inside => .shadow s!"inset 0 0 0 {width} {color}"
  | .center => .inline [("border", s!"{width} solid {color}")]
  | .outside => .inline [("outline", s!"{width} solid {color}"), ("outline-offset", "0")]

/-- The declared size where both lengths are numbers. -/
def numericSize (node : NodeProps α) : Option (Size α) :=
  match node.width.bind Dimension.number?, node.height.bind Dimension.number? with
  | some width, some height => some ⟨width, height⟩
  | _, _ => none

/-- A solid stroke that needs a pseudo-element. -/
def solidOverlay (spec : StrokeSpec α) (color : String) (node : NodeProps α) : StrokeCss :=
  let drawn := !spec.dashPattern.isEmpty && spec.weights.isUniform &&
    (rectangularTypes.contains node.type || node.type == "ELLIPSE")
  match drawn, numericSize node with
  | true, some size => .overlay (spec.dashPseudo color node size.width size.height)
  | _, _ => .overlay (spec.borderPseudo color node)

/-- The stroke of a box whose effects have shadows or not. -/
def boxStroke (spec : StrokeSpec α) (node : NodeProps α) (hasShadows : Bool) : StrokeCss :=
  match spec.paint with
  | .gradient value => .overlay (spec.gradientPseudo value node)
  | .solid color =>
    if spec.weights.isUniform && spec.dashPattern.isEmpty && !hasShadows then
      spec.nativeStroke color
    else spec.solidOverlay color node

end StrokeSpec

namespace StrokeCss

/-- How a stroke is drawn on its node. -/
def ofSpec (node : NodeProps α) (hasShadows : Bool) (spec : StrokeSpec α) : StrokeCss :=
  if spec.weights.isZero then none
  else if node.type = "TEXT" then spec.textStroke
  else if node.isVector then none
  else spec.boxStroke node hasShadows

/-- The stroke of a node that shows the given shadows. -/
def ofNode (node : NodeProps α) (shadows : List (Shadow α)) : Except Fault StrokeCss := do
  match ← StrokeSpec.ofNode node with
  | some spec => return ofSpec node (!shadows.isEmpty) spec
  | .none => return none

end StrokeCss

end Artboard
