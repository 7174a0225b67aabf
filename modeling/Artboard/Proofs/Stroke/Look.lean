import Artboard.Proofs.Stroke.Drawing
import Artboard.Proofs.Stroke.Overlay

/-!
# The look of a stroke

What the paint, the weights and the alignment of a stroke ask for, said without
looking at how a stroke is drawn. A box draws a line around itself or its glyphs;
a pseudo-element shows a border, a drawing of dashes, or a gradient of which a mask
leaves a ring.
-/
namespace Artboard

open Css Css.Declarations

variable {α : Type} [Scalar α]

/-! ### Weights -/

namespace Sides

/-- Going around the box, each side is the same as the next. -/
structure Alike (sides : Sides α) : Prop where
  right : (sides.top == sides.right) = true
  bottom : (sides.right == sides.bottom) = true
  left : (sides.bottom == sides.left) = true

theorem isUniform_iff {sides : Sides α} : sides.isUniform = true ↔ sides.Alike := by
  rw [isUniform, Bool.and_eq_true, Bool.and_eq_true]
  exact ⟨fun ⟨⟨right, bottom⟩, left⟩ => ⟨right, bottom, left⟩,
    fun alike => ⟨⟨alike.right, alike.bottom⟩, alike.left⟩⟩

/-- No side has a weight. -/
def Weightless (sides : Sides α) : Prop :=
  ∀ weight ∈ [sides.top, sides.right, sides.bottom, sides.left], (weight == 0.0) = true

theorem isZero_iff {sides : Sides α} : sides.isZero = true ↔ sides.Weightless :=
  List.all_eq_true

instance (sides : Sides α) : Decidable sides.Weightless := decidable_of_iff _ isZero_iff

/-- The greatest weight of a side. -/
def widest (sides : Sides α) : α :=
  [sides.right, sides.bottom, sides.left].foldl Scalar.max sides.top

theorem max_eq (sides : Sides α) : sides.max = sides.widest := rfl

/-- The lengths of the sides, clockwise from the top. -/
def clockwise (sides : Sides α) : String :=
  s!"{px sides.top} {px sides.right} {px sides.bottom} {px sides.left}"

theorem intercalate_px (sides : Sides α) :
    String.intercalate " " (sides.toList.map px) = sides.clockwise := by
  apply String.toList_inj.mp
  simp [toList, clockwise, toString]

/-- The text is one length for all sides, or one for each. -/
inductive Written (sides : Sides α) : String → Prop
  | once : sides.Alike → Written sides (px sides.top)
  | each : ¬ sides.Alike → Written sides sides.clockwise

end Sides

/-- How far inside the edge of its box a stroke begins, by its weight there. -/
def StrokeAlign.start (weight : α) : StrokeAlign → α
  | .inside => 0.0
  | .center => -weight / 2.0
  | .outside => -weight

/-- A pseudo-element covers its box, and on each side as much as the stroke reaches out of it. -/
inductive LiesOver (align : StrokeAlign) (weights : Sides α) : List Declaration → Prop
  | inside : align = .inside → LiesOver align weights [("inset", "0")]
  | even : align ≠ .inside → (weights.map align.start).Alike →
      LiesOver align weights [("inset", px (align.start weights.top))]
  | uneven : align ≠ .inside → ¬ (weights.map align.start).Alike →
      LiesOver align weights
        [("top", px (align.start weights.top)), ("right", px (align.start weights.right)),
         ("bottom", px (align.start weights.bottom)), ("left", px (align.start weights.left))]

theorem liesOver_insetDeclarations (align : StrokeAlign) (weights : Sides α) :
    LiesOver align weights (insetDeclarations align weights) := by
  unfold insetDeclarations
  dsimp only
  split
  next inside => exact .inside inside
  next reaches =>
    have same : pseudoInsets align weights = weights.map align.start := by
      cases align with
      | inside => exact absurd rfl reaches
      | center => rfl
      | outside => rfl
    rw [same]
    split
    next even => exact .even reaches (Sides.isUniform_iff.mp even)
    next uneven => exact .uneven reaches (mt Sides.isUniform_iff.mpr uneven)

/-! ### Paints -/

/-- The paint is one colour, and the text is it. -/
def Paint.IsColor (paint : Paint α) (text : String) : Prop :=
  ∃ color, paint.source = .solid color ∧ ColorText color paint.opacity text

/-- The paint is a gradient over the box of the node, and the text is it. -/
def Paint.IsGradient (paint : Paint α) (node : NodeProps α) (text : String) : Prop :=
  ∃ ramp, paint.source = .gradient ramp ∧
    GradientValue ramp paint.opacity (node.numericLength .width) (node.numericLength .height)
      (some text)

/-! ### Lines of the box itself -/

/-- The box draws the stroke as a line of one weight: around its glyphs, where the line lies outside
behind them, or around itself. -/
inductive DrawsLine (node : NodeProps α) (color : String) : List Declaration → Prop
  | glyphs : node.type = "TEXT" → node.style.strokeAlign ≠ .outside →
      DrawsLine node color
        [("-webkit-text-stroke", s!"{px node.style.weights.widest} {color}")]
  | behind : node.type = "TEXT" → node.style.strokeAlign = .outside →
      DrawsLine node color
        [("-webkit-text-stroke", s!"{px node.style.weights.widest} {color}"),
         ("paint-order", "stroke fill")]
  | border : node.type ≠ "TEXT" → node.style.strokeAlign = .center →
      DrawsLine node color [("border", s!"{px node.style.weights.top} solid {color}")]
  | outline : node.type ≠ "TEXT" → node.style.strokeAlign = .outside →
      DrawsLine node color
        [("outline", s!"{px node.style.weights.top} solid {color}"), ("outline-offset", "0")]

namespace DrawsLine

variable {node : NodeProps α} {color : String} {declarations : List Declaration}

theorem distinct (line : DrawsLine node color declarations) : (names declarations).Nodup := by
  cases line <;> simp [names]

theorem ne_nil (line : DrawsLine node color declarations) : declarations ≠ [] := by
  cases line <;> simp

end DrawsLine

/-! ### Borders -/

/-- A border with dashes of at most two pixels is dotted. -/
inductive IsBorderStyle : List α → String → Prop
  | solid : IsBorderStyle [] "solid"
  | dotted {first rest} : first ≤ 2.0 → IsBorderStyle (first :: rest) "dotted"
  | dashed {first rest} : ¬ first ≤ 2.0 → IsBorderStyle (first :: rest) "dashed"

theorem isBorderStyle_borderStyle (dashPattern : List α) :
    IsBorderStyle dashPattern (borderStyle dashPattern) := by
  unfold borderStyle
  split
  · exact .solid
  · split
    next short => exact .dotted short
    next long => exact .dashed long

/-- The declarations are a border in one style and colour that has the weights of the sides. -/
inductive DrawsBorder (weights : Sides α) (style color : String) : List Declaration → Prop
  | even : weights.Alike →
      DrawsBorder weights style color [("border", s!"{px weights.top} {style} {color}")]
  | uneven : ¬ weights.Alike →
      DrawsBorder weights style color
        [("border-style", style), ("border-color", color), ("border-width", weights.clockwise)]

/-! ### Drawings of dashes -/

/-- The dashes of the stroke are drawn exactly, on a rectangle or an ellipse with numeric size. -/
structure NodeProps.DrawsDashes (node : NodeProps α) (paint : Paint α) : Prop where
  solid : ∃ color, paint.source = .solid color
  dashed : node.style.dashPattern ≠ []
  alike : node.style.weights.Alike
  type : node.type ∈ ["RECTANGLE", "FRAME", "INSTANCE", "COMPONENT", "COMPONENT_SET", "ELLIPSE"]
  width : ∃ width, node.width = some (.number width)
  height : ∃ height, node.height = some (.number height)

/-- How far a stroke reaches out of its box on each side. -/
def StrokeAlign.reach (weight : α) : StrokeAlign → α
  | .inside => 0.0
  | .center => weight / 2.0
  | .outside => weight

/-- The shape goes once around a canvas of a size, half a weight inside its edge. The corners of a
path are arcs, clockwise from the top. -/
def DashShape.GoesAround (isEllipse : Bool) (width height weight : α) : DashShape α → Prop
  | .ellipse cx cy rx ry =>
    isEllipse = true ∧ cx = width / 2.0 ∧ cy = height / 2.0 ∧ rx = (width - weight) / 2.0 ∧
      ry = (height - weight) / 2.0
  | .rect x y across down _ =>
    isEllipse = false ∧ x = weight / 2.0 ∧ y = weight / 2.0 ∧ across = width - weight ∧
      down = height - weight
  | .path steps =>
    isEllipse = false ∧ ∃ corners : Corners α,
      let left := weight / 2.0
      let top := weight / 2.0
      let right := left + (width - weight)
      let bottom := top + (height - weight)
      steps =
        [.moveTo (left + corners.topLeft) top,
         .lineTo (right - corners.topRight) top,
         .arcTo corners.topRight right (top + corners.topRight),
         .lineTo right (bottom - corners.bottomRight),
         .arcTo corners.bottomRight (right - corners.bottomRight) bottom,
         .lineTo (left + corners.bottomLeft) bottom,
         .arcTo corners.bottomLeft left (bottom - corners.bottomLeft),
         .lineTo left (top + corners.topLeft),
         .arcTo corners.topLeft (left + corners.topLeft) top,
         .close]

theorem growth_eq (align : StrokeAlign) (weight : α) :
    DashFrame.growth align weight = align.reach weight := by
  cases align <;> rfl

theorem goesAround_ofFrame (isEllipse : Bool) (radii : Option (Radii α)) (align : StrokeAlign)
    (weight width height : α) :
    (DashShape.ofFrame isEllipse radii (.ofBox align weight width height)).GoesAround isEllipse
      (width + 2.0 * align.reach weight) (height + 2.0 * align.reach weight) weight := by
  rw [← growth_eq]
  -- Whatever its corners are, a rectangle and a path go around the same canvas.
  have around (corners : Corners α) :
      let frame := DashFrame.ofBox align weight width height
      DashShape.GoesAround false frame.width frame.height weight
        (if corners.isUniform then
          .rect frame.inset frame.inset frame.lineWidth frame.lineHeight corners.topLeft
        else
          .path (roundedOutline frame.inset frame.inset frame.lineWidth frame.lineHeight
            corners)) := by
    dsimp only
    split
    · exact ⟨rfl, rfl, rfl, rfl, rfl⟩
    · exact ⟨rfl, corners, rfl⟩
  cases isEllipse with
  | true => exact ⟨rfl, rfl, rfl, rfl, rfl⟩
  | false => exact around _

/-- The image is a drawing as large as the box and what the stroke reaches out of it. On it is a
line around the box in the colour, as wide as the stroke and with its dashes. -/
def ShowsDashes (node : NodeProps α) (color : String) (width height : α) (image : String) : Prop :=
  let weight := node.style.weights.top
  let across := width + 2.0 * node.style.strokeAlign.reach weight
  let down := height + 2.0 * node.style.strokeAlign.reach weight
  let shape := DashShape.ofFrame (node.type = "ELLIPSE") node.style.radii
    (.ofBox node.style.strokeAlign weight width height)
  shape.GoesAround (node.type = "ELLIPSE") across down weight ∧
    ShowsImage image
      ((svgCanvas across down).around (shape.line color node.style.dashPattern weight))

/-! ### Pseudo-elements -/

/-- What a pseudo-element declares to show the stroke. A solid stroke is a border with the corners
of the box, or a drawing where its dashes are drawn. A gradient is seen where padding is: the mask
leaves out the content. -/
inductive DrawsOver (node : NodeProps α) (paint : Paint α) : List Declaration → Prop
  | border {color style border} : ¬ node.DrawsDashes paint → paint.IsColor color →
      IsBorderStyle node.style.dashPattern style →
      DrawsBorder node.style.weights style color border →
      DrawsOver node paint
        (border ++ (grownRadius node.style.radii node.style.strokeAlign
          node.style.weights).toList.map fun radius => ("border-radius", radius))
  | dashes {color width height image} : node.DrawsDashes paint → paint.IsColor color →
      node.width = some (.number width) → node.height = some (.number height) →
      ShowsDashes node color width height image →
      DrawsOver node paint [("background", s!"{image} 0 0/100% 100% no-repeat")]
  | ring {gradient padding} : paint.IsGradient node gradient →
      node.style.weights.Written padding →
      DrawsOver node paint
        [("padding", padding), ("background", gradient),
         ("border-radius", (grownRadius node.style.radii node.style.strokeAlign
            node.style.weights).getD "inherit"),
         ("-webkit-mask", "linear-gradient(#fff 0 0) content-box, linear-gradient(#fff 0 0)"),
         ("-webkit-mask-composite", "xor"), ("mask-composite", "exclude")]

/-- The declarations of a pseudo-element that lies over its box, cannot be clicked and shows the
stroke of the paint. -/
def OverlayDeclares (node : NodeProps α) (paint : Paint α) (declarations : List Declaration) :
    Prop :=
  ∃ place own, LiesOver node.style.strokeAlign node.style.weights place ∧
    DrawsOver node paint own ∧
    declarations =
      [("content", "\"\""), ("position", "absolute"), ("z-index", "0"),
       ("pointer-events", "none")] ++ place ++ own

namespace StrokeSpec

theorem drawsBorder_borderDeclarations (spec : StrokeSpec α) (color : String) :
    DrawsBorder spec.weights (borderStyle spec.dashPattern) color
      (spec.borderDeclarations color) := by
  unfold borderDeclarations
  dsimp only
  split
  next even => exact .even (Sides.isUniform_iff.mp even)
  next uneven =>
    rw [Sides.intercalate_px]
    exact .uneven (mt Sides.isUniform_iff.mpr uneven)

theorem radiusDeclarations_eq (radius : Option String) :
    radiusDeclarations radius = radius.toList.map fun radius => ("border-radius", radius) := by
  cases radius <;> rfl

variable {node : NodeProps α} {paint : Paint α} {color value : String}

/-- The stroke of a solid paint. -/
abbrev solid (node : NodeProps α) (color : String) : StrokeSpec α :=
  ⟨.solid color, node.style.strokeAlign, node.style.weights, node.style.dashPattern⟩

/-- The stroke of a gradient, which has no dashes. -/
abbrev ring (node : NodeProps α) (value : String) : StrokeSpec α :=
  ⟨.gradient value, node.style.strokeAlign, node.style.weights, []⟩

theorem declares_borderPseudo (isColor : paint.IsColor color)
    (undrawn : ¬ node.DrawsDashes paint) :
    OverlayDeclares node paint
      (ofList ((solid node color).borderPseudo color node)).toList := by
  refine ⟨_, _, liesOver_insetDeclarations _ _, .border undrawn isColor
    (isBorderStyle_borderStyle _) ((solid node color).drawsBorder_borderDeclarations color), ?_⟩
  rw [toList_borderPseudo, borderPseudo, radiusDeclarations_eq, List.append_assoc]
  rfl

theorem declares_dashPseudo {width height : α} (isColor : paint.IsColor color)
    (dashes : node.DrawsDashes paint) (wide : node.width = some (.number width))
    (high : node.height = some (.number height)) :
    OverlayDeclares node paint
      (ofList ((solid node color).dashPseudo color node width height)).toList := by
  refine ⟨_, _, liesOver_insetDeclarations _ _, .dashes dashes isColor wide high ?_,
    toList_dashPseudo _ color node width height⟩
  refine ⟨goesAround_ofFrame _ _ _ _ _ _, ?_⟩
  rw [dashSvg_eq, ← growth_eq]
  exact showsImage_svgDataUri _

theorem declares_gradientPseudo (isGradient : paint.IsGradient node value) :
    OverlayDeclares node paint (ofList ((ring node value).gradientPseudo value node)).toList := by
  refine ⟨_, _, liesOver_insetDeclarations _ _, .ring isGradient ?_,
    toList_gradientPseudo _ value node⟩
  split
  next even => exact .once (Sides.isUniform_iff.mp even)
  next uneven =>
    rw [Sides.intercalate_px]
    exact .each (mt Sides.isUniform_iff.mpr uneven)

end StrokeSpec

end Artboard
