import Artboard.Design.Text

/-!
# Nodes of a design

A node declares its geometry, its style and the hints of its automatic layout,
and has children. A composition is a list of top-level nodes with an origin and
the size of its canvas.
-/
namespace Artboard

inductive LayoutMode where
  | none
  | horizontal
  | vertical
deriving DecidableEq, Repr

inductive AxisAlign where
  | min
  | center
  | max
  | spaceBetween
  | baseline
  | stretch
deriving DecidableEq, Repr

inductive LayoutAlign where
  | inherit
  | min
  | center
  | max
  | stretch
deriving DecidableEq, Repr

/-- What a node declares apart from its children. -/
structure NodeProps (α : Type) where
  id : String
  name : String
  type : String
  visible : Bool
  width : Option (Dimension α)
  height : Option (Dimension α)
  absoluteTransform : Option (Affine α)
  renderBounds : Option (Rect α)
  absoluteRenderBounds : Option (Rect α)
  style : Style α
  layoutMode : LayoutMode
  wraps : Bool
  itemSpacing : α
  counterAxisSpacing : α
  itemReverseZIndex : Bool
  primaryAxisAlignItems : AxisAlign
  counterAxisAlignItems : AxisAlign
  primaryAxisHugs : Bool
  counterAxisHugs : Bool
  padding : Sides α
  strokesIncludedInLayout : Bool
  clipsContent : Bool
  absolutelyPositioned : Bool
  layoutGrow : α
  layoutAlign : LayoutAlign
  text : Option (TextData α)
  svgId : Option String
  svgContent : Option String
  isMask : Bool
  maskType : Option String

inductive Node (α : Type) where
  | mk (props : NodeProps α) (children : List (Node α))

namespace Node

variable {α : Type}

def props : Node α → NodeProps α
  | mk props _ => props

def children : Node α → List (Node α)
  | mk _ children => children

end Node

structure Composition (α : Type) where
  name : String
  absOrigin : Option (Point α)
  bounds : Option (Size α)
  children : List (Node α)

/-- The types of nodes that hold other nodes. -/
def containerTypes : List String := ["FRAME", "INSTANCE", "COMPONENT", "COMPONENT_SET", "GROUP"]

/-- A text that is present and not empty. -/
def isGiven (text : Option String) : Bool :=
  match text with
  | some text => !text.isEmpty
  | none => false

namespace NodeProps

variable {α : Type} [Scalar α]

def isAutoLayout (node : NodeProps α) : Bool := node.layoutMode != .none

def isContainerType (node : NodeProps α) : Bool := containerTypes.contains node.type

/-- The node shows vector content. -/
def isVector (node : NodeProps α) : Bool := isGiven node.svgContent || isGiven node.svgId

/-- The declared length along an axis. -/
def dimension (node : NodeProps α) : Axis → Option (Dimension α)
  | .width => node.width
  | .height => node.height

/-- The declared length along an axis where it is a number, zero elsewhere. -/
def numericLength (node : NodeProps α) (axis : Axis) : α :=
  ((node.dimension axis).bind Dimension.number?).getD 0.0

end NodeProps

/-- The kinds of nodes that are drawn in different ways. -/
inductive NodeKind where
  | frame
  | text
  | svg
  | shape
deriving DecidableEq, Repr

namespace NodeKind

def name : NodeKind → String
  | frame => "frame"
  | text => "text"
  | svg => "svg"
  | shape => "shape"

/-- Vector content decides before text, text before containers, and containers before shapes. -/
def ofNode {α : Type} (node : NodeProps α) : NodeKind :=
  if node.isVector then .svg
  else if node.type = "TEXT" ∧ node.text.isSome then .text
  else if node.isContainerType then .frame
  else .shape

end NodeKind

end Artboard
