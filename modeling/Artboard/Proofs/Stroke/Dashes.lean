import Artboard.Proofs.Number.Rational
import Artboard.Proofs.Scene.Shadows
import Artboard.Proofs.Stroke.Drawing
import Artboard.Proofs.Stroke.Overlay
import Mathlib.Tactic.Ring

/-!
# Where dashes lie

The drawing of a dashed stroke has the size of the pseudo-element behind it, and so
it lies on the box as it is drawn. Its line runs around the box: half a weight
inside it, on its edge, or half a weight outside it. Rounded corners follow the
line, and all others are square.
-/
namespace Artboard

open Css Declarations

/-! ### Outlines of a rectangle -/

/-- The rectangle with every side moved outwards. -/
def Rect.grown (rect : Rect Rat) (offset : Rat) : Rect Rat :=
  ⟨rect.x - offset, rect.y - offset, rect.width + 2 * offset, rect.height + 2 * offset⟩

/-- The rectangle with every side moved inwards by a distance of its own. -/
def Rect.insetBy (rect : Rect Rat) (insets : Sides Rat) : Rect Rat :=
  ⟨rect.x + insets.left, rect.y + insets.top, rect.width - insets.left - insets.right,
    rect.height - insets.top - insets.bottom⟩

def Point.squaredDistance (first second : Point Rat) : Rat :=
  (first.x - second.x) ^ 2 + (first.y - second.y) ^ 2

/-- A piece of an outline. -/
inductive Stretch where
  | line (start stop : Point Rat)
  | arc (radius : Rat) (start stop : Point Rat)

/-- The pieces that are drawn from a point on. Closing an outline draws a line to where it began. -/
def PathStep.stretches (first here : Point Rat) : List (PathStep Rat) → List Stretch
  | [] => []
  | .moveTo x y :: rest => stretches ⟨x, y⟩ ⟨x, y⟩ rest
  | .lineTo x y :: rest => .line here ⟨x, y⟩ :: stretches first ⟨x, y⟩ rest
  | .arcTo radius x y :: rest => .arc radius here ⟨x, y⟩ :: stretches first ⟨x, y⟩ rest
  | .close :: rest => .line here first :: stretches first first rest

/-- A corner of a rectangle, with the directions in which an outline comes along one edge and leaves
along the next. -/
structure Turn where
  corner : Point Rat
  incoming : Point Rat
  outgoing : Point Rat

namespace Turn

/-- The point at a distance before the corner. -/
def before (turn : Turn) (distance : Rat) : Point Rat :=
  ⟨turn.corner.x - distance * turn.incoming.x, turn.corner.y - distance * turn.incoming.y⟩

/-- The point at a distance behind the corner. -/
def behind (turn : Turn) (distance : Rat) : Point Rat :=
  ⟨turn.corner.x + distance * turn.outgoing.x, turn.corner.y + distance * turn.outgoing.y⟩

end Turn

namespace Rect

variable (rect : Rect Rat)

def topRightTurn : Turn := ⟨⟨rect.x + rect.width, rect.y⟩, ⟨1, 0⟩, ⟨0, 1⟩⟩

def bottomRightTurn : Turn := ⟨⟨rect.x + rect.width, rect.y + rect.height⟩, ⟨0, 1⟩, ⟨-1, 0⟩⟩

def bottomLeftTurn : Turn := ⟨⟨rect.x, rect.y + rect.height⟩, ⟨-1, 0⟩, ⟨0, -1⟩⟩

def topLeftTurn : Turn := ⟨⟨rect.x, rect.y⟩, ⟨0, -1⟩, ⟨1, 0⟩⟩

/-- The corners clockwise, the one at the top left last, each with its radius. -/
def turns (corners : Corners Rat) : List (Turn × Rat) :=
  [(rect.topRightTurn, corners.topRight), (rect.bottomRightTurn, corners.bottomRight),
   (rect.bottomLeftTurn, corners.bottomLeft), (rect.topLeftTurn, corners.topLeft)]

end Rect

/-- A line along the edge to each corner and an arc around it. -/
def roundedFrom (here : Point Rat) : List (Turn × Rat) → List Stretch
  | [] => []
  | (turn, radius) :: rest =>
    .line here (turn.before radius) :: .arc radius (turn.before radius) (turn.behind radius) ::
      roundedFrom (turn.behind radius) rest

/-- The pieces go once around the rectangle and end where they began: the line that closes them is
empty. Each arc begins and ends at the distance of its radius from its corner. -/
structure Rect.Outlined (rect : Rect Rat) (corners : Corners Rat) (pieces : List Stretch) :
    Prop where
  around : pieces = roundedFrom (rect.topLeftTurn.behind corners.topLeft) (rect.turns corners) ++
    [.line (rect.topLeftTurn.behind corners.topLeft) (rect.topLeftTurn.behind corners.topLeft)]
  arcs : ∀ radius start stop, Stretch.arc radius start stop ∈ pieces → 0 ≤ radius ∧
    ∃ turn, (turn, radius) ∈ rect.turns corners ∧
      start.squaredDistance turn.corner = radius ^ 2 ∧
      stop.squaredDistance turn.corner = radius ^ 2

theorem mem_roundedFrom {here : Point Rat} {turns : List (Turn × Rat)} {radius : Rat}
    {start stop : Point Rat} (member : Stretch.arc radius start stop ∈ roundedFrom here turns) :
    ∃ turn, (turn, radius) ∈ turns ∧ start = turn.before radius ∧ stop = turn.behind radius := by
  induction turns generalizing here with
  | nil => simp [roundedFrom] at member
  | cons entry rest ih =>
    obtain ⟨turn, own⟩ := entry
    simp only [roundedFrom, List.mem_cons, reduceCtorEq, Stretch.arc.injEq, false_or] at member
    rcases member with ⟨rfl, rfl, rfl⟩ | member
    · exact ⟨turn, .head _, rfl, rfl⟩
    · obtain ⟨other, member, ends⟩ := ih member
      exact ⟨other, .tail _ member, ends⟩

/-- Edges run along the axes. -/
theorem squaredDistance_turn {rect : Rect Rat} {corners : Corners Rat} {turn : Turn} {radius : Rat}
    (member : (turn, radius) ∈ rect.turns corners) (distance : Rat) :
    (turn.before distance).squaredDistance turn.corner = distance ^ 2 ∧
      (turn.behind distance).squaredDistance turn.corner = distance ^ 2 := by
  simp only [Rect.turns, List.mem_cons, Prod.mk.injEq, List.not_mem_nil, or_false] at member
  rcases member with ⟨rfl, -⟩ | ⟨rfl, -⟩ | ⟨rfl, -⟩ | ⟨rfl, -⟩
  all_goals
    constructor
    · simp only [Point.squaredDistance, Turn.before, Rect.topRightTurn, Rect.bottomRightTurn,
        Rect.bottomLeftTurn, Rect.topLeftTurn]
      ring
    · simp only [Point.squaredDistance, Turn.behind, Rect.topRightTurn, Rect.bottomRightTurn,
        Rect.bottomLeftTurn, Rect.topLeftTurn]
      ring

theorem outlined_roundedOutline (rect : Rect Rat) {corners : Corners Rat}
    (nonneg : ∀ radius ∈ corners.toList, 0 ≤ radius) (first here : Point Rat) :
    rect.Outlined corners (PathStep.stretches first here
      (roundedOutline rect.x rect.y rect.width rect.height corners)) := by
  have around : PathStep.stretches first here
      (roundedOutline rect.x rect.y rect.width rect.height corners) =
        roundedFrom (rect.topLeftTurn.behind corners.topLeft) (rect.turns corners) ++
          [.line (rect.topLeftTurn.behind corners.topLeft)
            (rect.topLeftTurn.behind corners.topLeft)] := by
    simp [roundedOutline, PathStep.stretches, roundedFrom, Rect.turns, Turn.before, Turn.behind,
      Rect.topRightTurn, Rect.bottomRightTurn, Rect.bottomLeftTurn, Rect.topLeftTurn,
      ← sub_eq_add_neg]
  refine ⟨around, fun radius start stop member => ?_⟩
  rw [around, List.mem_append] at member
  obtain ⟨turn, known, rfl, rfl⟩ := mem_roundedFrom (member.resolve_right (by simp))
  obtain ⟨before, behind⟩ := squaredDistance_turn known radius
  refine ⟨nonneg radius ?_, turn, known, before, behind⟩
  simp only [Rect.turns, List.mem_cons, Prod.mk.injEq, List.not_mem_nil, or_false] at known
  rcases known with ⟨-, rfl⟩ | ⟨-, rfl⟩ | ⟨-, rfl⟩ | ⟨-, rfl⟩ <;> simp [Corners.toList]

/-! ### Moving a drawing -/

def PathStep.moved (origin : Point Rat) : PathStep Rat → PathStep Rat
  | .moveTo x y => .moveTo (origin.x + x) (origin.y + y)
  | .lineTo x y => .lineTo (origin.x + x) (origin.y + y)
  | .arcTo radius x y => .arcTo radius (origin.x + x) (origin.y + y)
  | .close => .close

/-- A shape as it lies on a canvas that begins at the origin. -/
def DashShape.moved (origin : Point Rat) : DashShape Rat → DashShape Rat
  | .ellipse cx cy rx ry => .ellipse (origin.x + cx) (origin.y + cy) rx ry
  | .rect x y width height radius => .rect (origin.x + x) (origin.y + y) width height radius
  | .path steps => .path (steps.map (PathStep.moved origin))

theorem map_moved_roundedOutline (origin : Point Rat) (x y width height : Rat)
    (corners : Corners Rat) :
    (roundedOutline x y width height corners).map (PathStep.moved origin) =
      roundedOutline (origin.x + x) (origin.y + y) width height corners := by
  simp only [roundedOutline, List.map_cons, List.map_nil, PathStep.moved, add_assoc, add_sub_assoc]

/-! ### The line of a stroke -/

/-- How far the line of a stroke lies outside its box. -/
def StrokeAlign.lineOffset (weight : Rat) : StrokeAlign → Rat
  | .inside => -weight / 2
  | .center => 0
  | .outside => weight / 2

/-- The corners that a box declares. -/
def declaredCorners (radii : Option (Radii Rat)) : Corners Rat :=
  match radii with
  | some radii => radii.toCorners
  | none => .all 0

/-- A rounded corner follows the line, and any other corner is square. -/
def lineRadius (offset radius : Rat) : Rat := if 0 < radius then max (radius + offset) 0 else 0

theorem lineRadius_nonneg (offset radius : Rat) : 0 ≤ lineRadius offset radius := by
  rw [lineRadius]
  split
  · exact le_max_right _ _
  · exact le_rfl

/-- An ellipse touches the rectangle on all sides. A rectangle is it, with all its corners alike,
and a path goes around it if they are not. -/
def DashShape.Follows (isEllipse : Bool) (rect : Rect Rat) (corners : Corners Rat) :
    DashShape Rat → Prop
  | .ellipse cx cy rx ry => isEllipse = true ∧ cx - rx = rect.x ∧ cx + rx = rect.x + rect.width ∧
      cy - ry = rect.y ∧ cy + ry = rect.y + rect.height
  | .rect x y width height radius =>
    isEllipse = false ∧ ⟨x, y, width, height⟩ = rect ∧ corners = .all radius
  | .path steps => isEllipse = false ∧ (∀ radius, corners ≠ .all radius) ∧
      ∀ here, rect.Outlined corners (PathStep.stretches here here steps)

theorem movedRadius_rat (offset radius : Rat) :
    movedRadius offset radius = lineRadius offset radius := by
  rw [movedRadius, scalarMax_rat, zero_rat]
  rfl

theorem shift_rat (align : StrokeAlign) (weight : Rat) :
    DashFrame.shift align weight = align.lineOffset weight := by
  cases align with
  | inside =>
    rw [DashFrame.shift, two_rat, StrokeAlign.lineOffset]
    ring
  | center => exact zero_rat
  | outside => rw [DashFrame.shift, two_rat, StrokeAlign.lineOffset]

theorem isUniform_corners_rat (corners : Corners Rat) :
    corners.isUniform = true ↔ ∃ radius, corners = .all radius := by
  obtain ⟨topLeft, topRight, bottomRight, bottomLeft⟩ := corners
  have same (first second : Rat) : (first == second) = true ↔ first = second := beq_iff_eq
  simp only [Corners.isUniform, Bool.and_eq_true, same, Corners.all, Corners.mk.injEq]
  constructor
  · rintro ⟨⟨rfl, rfl⟩, rfl⟩
    exact ⟨_, rfl, rfl, rfl, rfl⟩
  · rintro ⟨radius, rfl, rfl, rfl, rfl⟩
    exact ⟨⟨rfl, rfl⟩, rfl⟩

theorem isUniform_sides_rat {sides : Sides Rat} (uniform : sides.isUniform = true) :
    sides = ⟨sides.top, sides.top, sides.top, sides.top⟩ := by
  obtain ⟨top, right, bottom, left⟩ := sides
  have same (first second : Rat) : (first == second) = true ↔ first = second := beq_iff_eq
  simp only [Sides.isUniform, Bool.and_eq_true, same] at uniform
  obtain ⟨⟨rfl, rfl⟩, rfl⟩ := uniform
  rfl

/-- A pseudo-element reaches as far over its box on all sides as the canvas of its drawing. -/
theorem pseudoInsets_rat {weights : Sides Rat} (uniform : weights.isUniform = true)
    (align : StrokeAlign) :
    let inset := -DashFrame.growth align weights.top
    pseudoInsets align weights = ⟨inset, inset, inset, inset⟩ := by
  have same := isUniform_sides_rat uniform
  generalize weights.top = weight at same ⊢
  subst same
  cases align with
  | inside => simp [pseudoInsets, DashFrame.growth, zero_rat]
  | center => simp [pseudoInsets, DashFrame.growth, Sides.map, neg_div]
  | outside => simp [pseudoInsets, DashFrame.growth, Sides.map]

/-- From the edge of the canvas the line lies half a weight inwards. -/
theorem lineOffset_eq (align : StrokeAlign) (weight : Rat) :
    align.lineOffset weight = DashFrame.growth align weight - weight / 2 := by
  cases align with
  | inside =>
    rw [DashFrame.growth, StrokeAlign.lineOffset, zero_rat]
    ring
  | center =>
    rw [DashFrame.growth, StrokeAlign.lineOffset, two_rat]
    ring
  | outside =>
    rw [DashFrame.growth, StrokeAlign.lineOffset]
    ring

theorem ofBox_rat (align : StrokeAlign) (weight width height : Rat) :
    DashFrame.ofBox align weight width height =
      { width := width + 2 * DashFrame.growth align weight
        height := height + 2 * DashFrame.growth align weight
        inset := weight / 2
        lineWidth := width + 2 * align.lineOffset weight
        lineHeight := height + 2 * align.lineOffset weight
        weight
        delta := align.lineOffset weight } := by
  simp only [DashFrame.ofBox, two_rat, shift_rat, lineOffset_eq, DashFrame.mk.injEq, true_and,
    and_true]
  constructor <;> ring

/-- The corners of the line of a box that is no ellipse say how it is drawn. -/
theorem ofFrame_rat (radii : Option (Radii Rat)) (frame : DashFrame Rat) :
    DashShape.ofFrame false radii frame =
      let corners := (declaredCorners radii).map (lineRadius frame.delta)
      if corners.isUniform then
        .rect frame.inset frame.inset frame.lineWidth frame.lineHeight corners.topLeft
      else
        .path (roundedOutline frame.inset frame.inset frame.lineWidth frame.lineHeight corners) := by
  have moved : movedRadius frame.delta = lineRadius frame.delta := funext (movedRadius_rat _)
  cases radii with
  | none =>
    have square : (Corners.all 0).map (lineRadius frame.delta) = .all 0.0 := by
      simp [Corners.map, Corners.all, lineRadius, zero_rat]
    simp only [declaredCorners, square]
    rfl
  | some radii =>
    simp only [declaredCorners, ← moved]
    rfl

/-- The shape on the canvas follows the grown box. -/
theorem follows_ofFrame (align : StrokeAlign) (weight width height : Rat) (isEllipse : Bool)
    (radii : Option (Radii Rat)) :
    let growth := DashFrame.growth align weight
    ((DashShape.ofFrame isEllipse radii (.ofBox align weight width height)).moved
        ⟨-growth, -growth⟩).Follows isEllipse
      ((⟨0, 0, width, height⟩ : Rect Rat).grown (align.lineOffset weight))
      ((declaredCorners radii).map (lineRadius (align.lineOffset weight))) := by
  intro growth
  rw [ofBox_rat]
  cases isEllipse with
  | true =>
    refine ⟨rfl, ?_, ?_, ?_, ?_⟩
    all_goals
      simp only [Rect.grown, two_rat, lineOffset_eq, growth]
      ring
  | false =>
    have edge : -growth + weight / 2 = 0 - align.lineOffset weight := by
      rw [lineOffset_eq]
      ring
    have nonneg : ∀ radius ∈ ((declaredCorners radii).map
        (lineRadius (align.lineOffset weight))).toList, 0 ≤ radius := by
      simp [Corners.toList, Corners.map, lineRadius_nonneg]
    simp only [ofFrame_rat]
    generalize (declaredCorners radii).map (lineRadius (align.lineOffset weight)) = corners
      at nonneg ⊢
    by_cases uniform : corners.isUniform = true
    · rw [if_pos uniform]
      obtain ⟨radius, rfl⟩ := (isUniform_corners_rat corners).mp uniform
      refine ⟨rfl, ?_, rfl⟩
      rw [edge]
      rfl
    · rw [if_neg uniform, DashShape.moved, map_moved_roundedOutline, edge]
      refine ⟨rfl, fun radius same => ?_, fun here => ?_⟩
      · exact uniform ((isUniform_corners_rat corners).mpr ⟨radius, same⟩)
      · exact outlined_roundedOutline _ nonneg here here

private theorem insetDeclarations_rat {weights : Sides Rat} (uniform : weights.isUniform = true)
    (align : StrokeAlign) : insetDeclarations align weights =
      [("inset", if align = .inside then "0" else Css.px (pseudoInsets align weights).top)] := by
  have same : (pseudoInsets align weights).isUniform = true := by
    rw [pseudoInsets_rat uniform]
    simp [Sides.isUniform]
  simp only [insetDeclarations, same, if_true]
  split <;> rfl

private theorem toList_dashPseudo_rat {spec : StrokeSpec Rat}
    (uniform : spec.weights.isUniform = true) (color : String) (node : NodeProps Rat)
    (width height : Rat) :
    (ofList (spec.dashPseudo color node width height)).toList = pseudoBase ++
      [("inset", if spec.align = .inside then "0" else
         Css.px (pseudoInsets spec.align spec.weights).top),
       ("background", svgDataUri (spec.dashDrawing color node width height) ++
         " 0 0/100% 100% no-repeat")] := by
  rw [StrokeSpec.toList_dashPseudo, StrokeSpec.dashPseudo, insetDeclarations_rat uniform,
    List.append_assoc]
  rfl

/-- The pseudo-element of a dashed stroke is the box moved outwards by the weights that lie outside
it, and the drawing behind it is a canvas of its size with one line. The line follows the box at the
distance that the alignment says, with the declared corners. -/
theorem dashes_follow_alignment (spec : StrokeSpec Rat) (uniform : spec.weights.isUniform = true)
    (color : String) (node : NodeProps Rat) (width height : Rat) :
    let host : Rect Rat := ⟨0, 0, width, height⟩
    let insets := pseudoInsets spec.align spec.weights
    let box := host.insetBy insets
    let frame := DashFrame.ofBox spec.align spec.weights.top width height
    let shape := DashShape.ofFrame (node.type = "ELLIPSE") node.style.radii frame
    let offset := spec.align.lineOffset spec.weights.top
    (ofList (spec.dashPseudo color node width height)).toList = pseudoBase ++
        [("inset", if spec.align = .inside then "0" else Css.px insets.top),
         ("background", svgDataUri (dashSvg color spec.dashPattern frame shape) ++
           " 0 0/100% 100% no-repeat")] ∧
      dashSvg color spec.dashPattern frame shape = (svgCanvas box.width box.height).around
        (shape.line color spec.dashPattern spec.weights.top) ∧
      insets = ⟨insets.top, insets.top, insets.top, insets.top⟩ ∧
      frame.width = box.width ∧ frame.height = box.height ∧
      (shape.moved ⟨box.x, box.y⟩).Follows (node.type = "ELLIPSE") (host.grown offset)
        ((declaredCorners node.style.radii).map (lineRadius offset)) := by
  intro host insets box frame shape offset
  have inset : insets = _ := pseudoInsets_rat uniform spec.align
  have origin : box.x = -DashFrame.growth spec.align spec.weights.top ∧
      box.y = -DashFrame.growth spec.align spec.weights.top := by
    simp only [box, host, Rect.insetBy, inset, zero_add, and_self]
  have wide : frame.width = box.width := by
    simp only [frame, box, host, Rect.insetBy, inset, ofBox_rat]
    ring
  have high : frame.height = box.height := by
    simp only [frame, box, host, Rect.insetBy, inset, ofBox_rat]
    ring
  refine ⟨toList_dashPseudo_rat uniform color node width height, ?_, by rw [inset], wide, high, ?_⟩
  · rw [dashSvg_eq, wide, high]
    rfl
  · rw [origin.1, origin.2]
    exact follows_ofFrame spec.align spec.weights.top width height _ node.style.radii

/-- A node, ten by twenty, with dashes around it that are four wide. -/
def dashedProps (corners : Corners Rat) : NodeProps Rat :=
  let props := plainProps "tab" "RECTANGLE" .identity
  { props with
    style := { props.style with
      strokes := [blackStroke], strokeWeights := some ⟨4, 4, 4, 4⟩, strokeAlign := .outside
      dashPattern := [4], radii := some ⟨none, some corners⟩ } }

def dashedStroke : StrokeSpec Rat := ⟨.solid "rgb(0,0,0)", .outside, ⟨4, 4, 4, 4⟩, [4]⟩

/-- Two rounded corners and two square ones: the line is a path. -/
theorem tab_dashes_follow :
    dashedStroke.weights.isUniform = true ∧
      ((DashShape.ofFrame false (dashedProps ⟨3, 6, 0, 0⟩).style.radii
          (.ofBox .outside 4 10 20)).moved ⟨-4, -4⟩).Follows false ⟨-2, -2, 14, 24⟩
        ⟨5, 8, 0, 0⟩ := by
  have uniform : dashedStroke.weights.isUniform = true := by decide +kernel
  have follows := (dashes_follow_alignment dashedStroke uniform "rgb(0,0,0)"
    (dashedProps ⟨3, 6, 0, 0⟩) 10 20).2.2.2.2.2
  have box : (⟨0, 0, 10, 20⟩ : Rect Rat).insetBy
      (pseudoInsets dashedStroke.align dashedStroke.weights) = ⟨-4, -4, 18, 28⟩ := by
    norm_num [Rect.insetBy, pseudoInsets, dashedStroke, Sides.map]
  have grown : (⟨0, 0, 10, 20⟩ : Rect Rat).grown
      (dashedStroke.align.lineOffset dashedStroke.weights.top) = ⟨-2, -2, 14, 24⟩ := by
    norm_num [Rect.grown, StrokeAlign.lineOffset, dashedStroke]
  have corners : (declaredCorners (dashedProps ⟨3, 6, 0, 0⟩).style.radii).map
      (lineRadius (dashedStroke.align.lineOffset dashedStroke.weights.top)) = ⟨5, 8, 0, 0⟩ := by
    norm_num [declaredCorners, dashedProps, Radii.toCorners, Corners.map, lineRadius,
      StrokeAlign.lineOffset, dashedStroke]
  rw [box, grown, corners] at follows
  exact ⟨uniform, follows⟩

/-- The corner with its radius grown as it is, and cut off at zero. -/
def clampedRadius (offset radius : Rat) : Rat := if radius = 0 then 0 else max (radius + offset) 0

/-- A negative radius that would grow to a positive one leaves its corner square. -/
theorem negative_corner_stays_square :
    ¬ ((DashShape.ofFrame false (dashedProps ⟨-1, 0, 0, 0⟩).style.radii
        (.ofBox .outside 4 10 20)).moved ⟨-4, -4⟩).Follows false ⟨-2, -2, 14, 24⟩
      ((declaredCorners (dashedProps ⟨-1, 0, 0, 0⟩).style.radii).map (clampedRadius 2)) := by
  have corners : (declaredCorners (dashedProps ⟨-1, 0, 0, 0⟩).style.radii).map (clampedRadius 2) =
      ⟨1, 0, 0, 0⟩ := by
    norm_num [declaredCorners, dashedProps, Radii.toCorners, Corners.map, clampedRadius]
  have square : DashShape.ofFrame false (dashedProps ⟨-1, 0, 0, 0⟩).style.radii
      (.ofBox .outside 4 10 20) = .rect 2 2 14 24 0 := by
    have zero : (declaredCorners (dashedProps ⟨-1, 0, 0, 0⟩).style.radii).map
        (lineRadius (StrokeAlign.lineOffset 4 .outside)) = .all 0 := by
      norm_num [declaredCorners, dashedProps, Radii.toCorners, Corners.map, Corners.all, lineRadius]
    simp only [ofBox_rat, ofFrame_rat, zero]
    rw [if_pos ((isUniform_corners_rat _).mpr ⟨0, rfl⟩)]
    norm_num [StrokeAlign.lineOffset, Corners.all]
  rw [corners, square]
  rintro ⟨-, -, same⟩
  simp [Corners.all] at same

end Artboard
