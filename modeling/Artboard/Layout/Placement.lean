import Artboard.Layout.Alignment

/-!
# Placement of a node

The place of a node is its own transform after the inverse of its parent's.
Vector content is placed by its render bounds and cancels the turn and scale of
the parent, which it already contains. In a flow the place is left to the parent,
and a turned box reserves the extent of its four corners.
-/
namespace Artboard

variable {α : Type} [Scalar α]

namespace NodeProps

def declaredSize (node : NodeProps α) (axis : Axis) : DeclaredSize :=
  match node.dimension axis with
  | some (.number value) => .number (Scalar.text value)
  | some (.symbolic text) => .symbolic text
  | none => .absent

/-- The finite number declared for a length. -/
def finiteLength? (node : NodeProps α) (axis : Axis) : Option α :=
  match (node.dimension axis).bind Dimension.number? with
  | some value => if Scalar.isFinite value then some value else none
  | none => none

/-- The declared length, else that of the render bounds. -/
def length (node : NodeProps α) (axis : Axis) : Except Fault α :=
  match node.finiteLength? axis, node.renderBounds with
  | some value, _ => .ok value
  | none, some bounds =>
    .ok (match axis with
      | .width => bounds.width
      | .height => bounds.height)
  | none, none => .error (.violation (.invalidSize axis (node.declaredSize axis) node.id))

def size (node : NodeProps α) : Except Fault (Size α) := do
  let width ← node.length .width
  let height ← node.length .height
  return ⟨width, height⟩

end NodeProps

/-- The place of a box in the frame of its parent. -/
structure Place (α : Type) where
  left : α
  top : α
  width : α
  height : α
  transform : Linear α

namespace Place

/-- Vector content lies at its render bounds; where these are known absolutely, the linear part
of the parent is cancelled unless it is the identity. -/
def ofVector (node : NodeProps α) (inverse : Affine α) : Except Fault (Place α) :=
  match node.renderBounds with
  | none => .error (.violation (.missingVectorBounds node.id))
  | some bounds =>
    match node.absoluteRenderBounds with
    | none => .ok ⟨bounds.x, bounds.y, bounds.width, bounds.height, .identity⟩
    | some absolute =>
      let (left, top) := inverse.apply absolute.x absolute.y
      let transform := if inverse.linear.isIdentity then .identity else inverse.linear
      .ok ⟨left, top, bounds.width, bounds.height, transform⟩

def ofBox (node : NodeProps α) (local_ : Affine α) : Except Fault (Place α) := do
  let size ← node.size
  return ⟨local_.e, local_.f, size.width, size.height, local_.linear⟩

end Place

/-- A box in flow reserves its extent when it is turned, reflected or scaled unevenly. -/
def needsReservation (map : Affine α) : Bool :=
  map.rotates || map.reflects ||
    Scalar.lengthsDiffer (map.a, map.b) (map.c, map.d) 1e-6

/-- The extent of the corners of a box under a linear map. -/
def reservedSize (map : Affine α) (size : Size α) : Size α :=
  if needsReservation map then
    ⟨Scalar.abs map.a * size.width + Scalar.abs map.c * size.height,
      Scalar.abs map.b * size.width + Scalar.abs map.d * size.height⟩
  else size

/-- The size that a box takes in the flow, and the wrapper that it then needs. -/
def flowSize (kind : NodeKind) (place : Place α) (map : Affine α) (size : Size α) :
    Size α × Option (Wrapper α) :=
  if kind = .svg then
    (size,
      if 1e-2 < Scalar.abs (place.width - size.width) ∨
          1e-2 < Scalar.abs (place.height - size.height) then
        some ⟨place.width, place.height, .translate⟩
      else none)
  else
    let reserved := reservedSize map size
    (reserved,
      if (reserved.width == size.width) = false ∨ (reserved.height == size.height) = false then
        some ⟨size.width, size.height, .translate⟩
      else none)

def flowItem (node : NodeProps α) (kind : NodeKind) (flow : Flow) (size : Size α) : FlexItem α :=
  let alignSelf := some node.layoutAlign.alignSelf
  if 0.0 < node.layoutGrow then
    let main :=
      match flow.axes.main with
      | .width => size.width
      | .height => size.height
    { grow := node.layoutGrow, shrink := some 1.0, alignSelf
      basis := some (if flow.wraps ∨ kind = .text then .symbolic "auto" else .number main) }
  else { grow := node.layoutGrow, shrink := none, basis := none, alignSelf }

/-- A text resizes itself along the axis. -/
def resizesAlong (node : NodeProps α) (axis : Axis) : Bool :=
  let mode := Text.upperText ((node.text.bind TextData.autoResize).getD "")
  match axis with
  | .width => mode == "WIDTH" || mode == "WIDTH_AND_HEIGHT"
  | .height => mode == "HEIGHT" || mode == "WIDTH_AND_HEIGHT"

/-- The axis along which a stretched box gives up its size. -/
def stretchedAxis (node : NodeProps α) (kind : NodeKind) (flow : Flow) : Option Axis :=
  let cross := flow.axes.cross
  if node.layoutAlign.stretches flow.alignItems = false then none
  else if kind = .text ∧ resizesAlong node cross = false then none
  else some cross

namespace Layout

def setAuto (layout : Layout α) (axis : Axis) : Layout α :=
  match axis with
  | .width => { layout with cssWidth := some "auto" }
  | .height => { layout with cssHeight := some "auto" }

def symbolicLength (layout : Layout α) : Axis → Option String
  | .width => layout.cssWidth
  | .height => layout.cssHeight

def ofPlace (place : Place α) : Layout α :=
  { (plain : Layout α) with
    left := place.left, top := place.top, width := place.width, height := place.height
    transform := place.transform }

/-- Gives the place of a box over to the flow of its parent. -/
def inFlow (node : NodeProps α) (kind : NodeKind) (flow : Flow) (place : Place α)
    (map : Affine α) (size : Size α) : Layout α :=
  let (taken, wrapper) := flowSize kind place map size
  let layout : Layout α :=
    { ofPlace place with
      position := .relative, left := 0.0, top := 0.0, origin := .center
      width := taken.width, height := taken.height, wrapper
      item := flowItem node kind flow taken }
  match stretchedAxis node kind flow with
  | some axis => layout.setAuto axis
  | none => layout

/-- Symbolic lengths of the node hold where nothing was set before. -/
def withSymbolicLengths (node : NodeProps α) (layout : Layout α) : Layout α :=
  let choose (current : Option String) (declared : Option (Dimension α)) : Option String :=
    match declared with
    | some (.symbolic text) => if isGiven current then current else some text
    | _ => current
  { layout with
    cssWidth := choose layout.cssWidth node.width
    cssHeight := choose layout.cssHeight node.height }

/-- A container that hugs its content along an axis has no length of its own there. -/
def hug (hugs : Bool) (axis : Axis) (layout : Layout α) : Layout α :=
  let symbolic :=
    match layout.symbolicLength axis with
    | some text => isSymbolicLength text
    | none => false
  if hugs && !symbolic then layout.setAuto axis else layout

def flexContainer (node : NodeProps α) : FlexContainer α :=
  let horizontal := node.layoutMode == .horizontal
  let justify := node.primaryAxisAlignItems.justifyContent
  let crossGap :=
    if node.wraps = true ∧ 0.0 < node.counterAxisSpacing then some node.counterAxisSpacing else none
  { direction := some (if horizontal then "row" else "column")
    justifyContent := justify
    alignItems := node.counterAxisAlignItems.alignItems
    wrap := some (if node.wraps then "wrap" else "nowrap")
    gap := if justify ≠ some "space-between" ∧ 0.0 < node.itemSpacing then some node.itemSpacing
           else none
    rowGap := if horizontal then crossGap else none
    columnGap := if horizontal then none else crossGap }

/-- The flex container of a node with automatic layout. -/
def withFlow (node : NodeProps α) (hasFlowChildren : Bool) (layout : Layout α) : Layout α :=
  if node.isAutoLayout then
    let layout := { layout with display := .flex, container := flexContainer node }
    if hasFlowChildren && layout.wrapper.isNone then
      let axes := FlowAxes.ofMode node.layoutMode
      (layout.hug node.primaryAxisHugs axes.main).hug node.counterAxisHugs axes.cross
    else layout
  else layout

/-- What a frame declares for its content. -/
def withContainer (node : NodeProps α) (hasFlowChildren : Bool) (layout : Layout α) : Layout α :=
  let layout := layout.withFlow node hasFlowChildren
  let centering : Centering :=
    if layout.display = .flex ∧ layout.transform.isIdentity = true then .inset else .translate
  { layout with
    padding := if node.padding.isZero then none else some node.padding
    boxSizing := if node.strokesIncludedInLayout then some "border-box" else none
    overflow := if node.clipsContent then some "hidden" else none
    wrapper := layout.wrapper.map fun wrapper => { wrapper with centering } }

/-- The place of a node in its parent's frame. -/
def place (node : NodeProps α) (inverse map : Affine α) : Except Fault (Place α) :=
  if NodeKind.ofNode node = .svg then Place.ofVector node inverse else Place.ofBox node map

/-- The layout of a node in the frame of its parent, and in its flow where it takes part in one. -/
def compute (node : NodeProps α) (hasFlowChildren : Bool) (parent : Affine α)
    (flow : Option Flow) : Except Fault (Layout α) := do
  let kind := NodeKind.ofNode node
  match node.absoluteTransform, parent.invert with
  | none, _ => .error (.violation (.missingTransform node.id))
  | some _, none => .error (.violation (.singularParent node.id))
  | some absolute, some inverse =>
    let map := inverse.compose absolute
    let place ← Layout.place node inverse map
    let layout ←
      match flow with
      | none => .ok (ofPlace place)
      | some flow => do
        let size ← node.size
        .ok (inFlow node kind flow place map size)
    let layout := layout.withSymbolicLengths node
    return if kind = .frame then layout.withContainer node hasFlowChildren else layout

end Layout

/-- A visible child that takes part in the flow. -/
def hasFlowChildren (children : List (Node α)) : Bool :=
  children.any fun child => child.props.visible && !child.props.absolutelyPositioned

end Artboard
