import Artboard.Proofs.Scene.Failure
import Artboard.Proofs.Scene.Layouts

/-!
# The geometry of a mask

A mask outside the flow is placed by its group as it would be placed by itself. The
size of the group is that of the declared numbers alone: where a length has to come
from the render bounds, or is symbolic, the group does not follow.
-/
namespace Artboard

variable {α : Type}

/-- The length of a rectangle along an axis. -/
def Rect.length (rect : Rect α) : Axis → α
  | .width => rect.width
  | .height => rect.height

/-- The length of a box along an axis. -/
def Layout.length (layout : Layout α) : Axis → α
  | .width => layout.width
  | .height => layout.height

/-- The boxes start at the same point and turn about it alike. -/
structure SamePlace (group layout : Layout α) : Prop where
  left : group.left = layout.left
  top : group.top = layout.top
  origin : group.origin = layout.origin
  transform : group.transform = layout.transform

/-- The boxes have the same length along an axis, in pixels and as a symbolic length. -/
structure SameLength (group layout : Layout α) (axis : Axis) : Prop where
  pixels : group.length axis = layout.length axis
  symbolic : group.symbolicLength axis = layout.symbolicLength axis

variable [Scalar α]

/-- What a group takes for a length is the length: a finite number is declared, or nothing symbolic
is and the render bounds are as long as the group. -/
def NodeProps.KeepsLength (node : NodeProps α) (axis : Axis) : Prop :=
  (∃ value, node.dimension axis = some (.number value) ∧ Scalar.isFinite value = true) ∨
    (node.dimension axis).bind Dimension.symbol? = none ∧
      ∃ bounds, node.renderBounds = some bounds ∧ bounds.length axis = node.numericLength axis

/-! ### Lengths of both boxes -/

/-- The length of a node is a finite number that it declares, else that of its render bounds. -/
private theorem length_cases {node : NodeProps α} {axis : Axis} {value : α}
    (known : node.length axis = .ok value) :
    (node.dimension axis = some (.number value) ∧ Scalar.isFinite value = true) ∨
      node.finiteLength? axis = none ∧
        ∃ bounds, node.renderBounds = some bounds ∧ value = bounds.length axis := by
  unfold NodeProps.length at known
  split at known
  next number found =>
    cases known
    exact .inl (finiteLength?_eq_some_iff.mp found)
  next bounds none found =>
    cases known
    exact .inr ⟨none, bounds, found, by cases axis <;> rfl⟩
  next => cases known

theorem numericLength_of_number {node : NodeProps α} {axis : Axis} {value : α}
    (declared : node.dimension axis = some (.number value)) : node.numericLength axis = value := by
  rw [NodeProps.numericLength, declared]
  rfl

/-- The declared number of a node is its length exactly where the node keeps its length, unless a
symbolic length stands for it. -/
private theorem keepsLength_iff {node : NodeProps α} {axis : Axis} {value : α}
    (known : node.length axis = .ok value) :
    node.KeepsLength axis ↔ node.numericLength axis = value ∧
      (node.dimension axis).bind Dimension.symbol? = none := by
  rcases length_cases known with ⟨declared, finite⟩ | ⟨none, bounds, found, rfl⟩
  · refine iff_of_true (.inl ⟨value, declared, finite⟩) ⟨numericLength_of_number declared, ?_⟩
    rw [declared]
    rfl
  · constructor
    · rintro (⟨number, declared, finite⟩ | ⟨plain, other, same, equal⟩)
      · rw [finiteLength?_eq_some_iff.mpr ⟨declared, finite⟩] at none
        cases none
      · cases found.symm.trans same
        exact ⟨equal.symm, plain⟩
    · rintro ⟨equal, plain⟩
      exact .inr ⟨plain, bounds, found, equal.symm⟩

/-- Outside a flow every symbolic length that is declared holds. -/
private theorem symbolicLength_ofPlace (node : NodeProps α) (place : Place α) (axis : Axis) :
    ((Layout.ofPlace place).withSymbolicLengths node).symbolicLength axis =
      (node.dimension axis).bind Dimension.symbol? := by
  cases axis with
  | width =>
    simp only [Layout.withSymbolicLengths, Layout.symbolicLength, NodeProps.dimension]
    rcases node.width with _ | value | text <;> rfl
  | height =>
    simp only [Layout.withSymbolicLengths, Layout.symbolicLength, NodeProps.dimension]
    rcases node.height with _ | value | text <;> rfl

/-- A shape outside a flow has its own place, its own size and the symbolic lengths that it
declares. -/
private theorem compute_shape {node : NodeProps α} {flows : Bool} {parent : Affine α}
    {layout : Layout α} (isShape : NodeKind.ofNode node = .shape)
    (computed : Layout.compute node flows parent none = .ok layout) :
    ∃ absolute inverse, node.absoluteTransform = some absolute ∧
      parent.invert = some inverse ∧
      SamePlace (maskLayout node (inverse.compose absolute) false) layout ∧
      ∀ axis, node.length axis = .ok (layout.length axis) ∧
        layout.symbolicLength axis = (node.dimension axis).bind Dimension.symbol? := by
  obtain ⟨own, inverse, place, known, inverted, placed, ⟨-, rfl⟩ | ⟨_, _, taken, -, -⟩⟩ :=
    Layout.compute_eq_ok_iff.mp computed
  case inr => cases taken
  rw [Layout.place, if_neg (by simp [isShape])] at placed
  obtain ⟨size, sized, placed⟩ := Except.bind_eq_ok_iff.mp placed
  cases placed
  obtain ⟨width, wide, sized⟩ := Except.bind_eq_ok_iff.mp sized
  obtain ⟨height, high, sized⟩ := Except.bind_eq_ok_iff.mp sized
  cases sized
  rw [Layout.filled, if_neg (by simp [isShape])]
  refine ⟨own, inverse, known, inverted, ⟨rfl, rfl, rfl, rfl⟩, fun axis => ⟨?_, ?_⟩⟩
  · cases axis with
    | width => exact wide
    | height => exact high
  · exact symbolicLength_ofPlace node _ axis

/-! ### Groups -/

/-- The group of a mask outside the flow lies where the mask would lie by itself, and along each
axis it is as long as the mask exactly where it takes the length of the mask for its own. -/
theorem group_has_mask_geometry {template : String} {container mask : Node α}
    {inherited : List (Shadow α)} {state : ContainerState α} {covered : List (Node α)}
    {css : Css.Declarations} {group : SceneNode α} {flows : Bool} {layout : Layout α}
    (entered : ContainerState.ofNode container.props inherited = .ok state)
    (isShape : NodeKind.ofNode mask.props = .shape)
    (loose : state.flowFor mask.props = none)
    (built : Compile.Returns (compileItem template state
      ((StackItem.masked mask covered css).map (Child.ofNode template))) group)
    (computed : Layout.compute mask.props flows state.frame none = .ok layout) :
    SamePlace group.box.layout layout ∧
      ∀ axis, SameLength group.box.layout layout axis ↔ mask.props.KeepsLength axis := by
  -- Both boxes are seen through the inverse of the same frame.
  obtain ⟨-, inverted, -⟩ := ContainerState.ofNode_cases entered
  obtain ⟨absolute, inverse, known, inverts, place, lengths⟩ := compute_shape isShape computed
  obtain rfl := Option.some.inj (inverted.symm.trans inverts)
  cases itemReturns_of_compileItem built with
  | masked same =>
    obtain rfl := Option.some.inj (known.symm.trans same)
    rw [loose]
    refine ⟨place, fun axis => ?_⟩
    obtain ⟨length, symbolic⟩ := lengths axis
    rw [keepsLength_iff length]
    have pixels : (maskLayout mask.props (state.inverse.compose absolute) false).length axis =
        mask.props.numericLength axis := by cases axis <;> rfl
    have plain : (maskLayout mask.props (state.inverse.compose absolute) false).symbolicLength
        axis = none := by cases axis <;> rfl
    constructor
    · rintro ⟨equal, named⟩
      exact ⟨pixels.symm.trans equal, symbolic.symm.trans (named.symm.trans plain)⟩
    · rintro ⟨equal, none⟩
      exact ⟨pixels.trans equal, plain.trans (symbolic.trans none).symm⟩

/-- A mask with render bounds ten by twenty that covers one shape. -/
def sizedMask (width : Option (Dimension Rat)) : Node Rat :=
  .mk { plainProps "mask" "RECTANGLE" .identity with isMask := true, width } []

def coveredShape : Node Rat := .mk (plainProps "covered" "RECTANGLE" .identity) []

def maskedFrame (mask : Node Rat) : Node Rat :=
  .mk (plainProps "frame" "FRAME" .identity) [mask, coveredShape]

/-- The group of the mask in its frame. -/
def maskedItem (mask : Node Rat) : StackItem (Child Rat) :=
  (StackItem.masked mask [coveredShape] ∅).map (Child.ofNode "")

private theorem exists_group (mask : Node Rat) (holds : Layout Rat → Layout Rat → Bool)
    (computed : (ContainerState.ofNode (maskedFrame mask).props []).toOption.any (fun state =>
      (state.flowFor mask.props).isNone &&
        (Layout.compute mask.props false state.frame none).toOption.any fun layout =>
          ((compileItem "" state (maskedItem mask)).outcome .empty).1.toOption.any fun group =>
            holds group.box.layout layout) = true) :
    ∃ state layout group, ContainerState.ofNode (maskedFrame mask).props [] = .ok state ∧
      state.flowFor mask.props = none ∧
      Layout.compute mask.props false state.frame none = .ok layout ∧
      Compile.Returns (compileItem "" state (maskedItem mask)) group ∧
      holds group.box.layout layout = true := by
  obtain ⟨state, entered, computed⟩ := Except.exists_of_any _ computed
  rw [Bool.and_eq_true, Option.isNone_iff_eq_none] at computed
  obtain ⟨layout, placed, drawn⟩ := Except.exists_of_any _ computed.2
  obtain ⟨group, built, held⟩ := Except.exists_of_any _ drawn
  exact ⟨state, layout, group, entered, computed.1, placed,
    ⟨.empty, _, Prod.ext built rfl⟩, held⟩

theorem numeric_mask_has_geometry :
    ∃ state layout group,
      ContainerState.ofNode (maskedFrame (sizedMask (some (.number 10)))).props [] = .ok state ∧
      Layout.compute (sizedMask (some (.number 10))).props false state.frame none = .ok layout ∧
      Compile.Returns (compileItem "" state (maskedItem (sizedMask (some (.number 10))))) group ∧
      SamePlace group.box.layout layout ∧ ∀ axis, SameLength group.box.layout layout axis := by
  obtain ⟨state, layout, group, entered, loose, computed, built, -⟩ :=
    exists_group (sizedMask (some (.number 10))) (fun _ _ => true) (by decide +kernel)
  obtain ⟨place, lengths⟩ := group_has_mask_geometry entered rfl loose built computed
  refine ⟨state, layout, group, entered, computed, built, place, fun axis => (lengths axis).mpr ?_⟩
  cases axis with
  | width => exact .inl ⟨10, rfl, by decide +kernel⟩
  | height => exact .inl ⟨20, rfl, by decide +kernel⟩

/-- A mask without a width takes that of its render bounds, while its group has none and hides what
the mask covers. -/
theorem bare_mask_loses_width :
    ∃ state layout group,
      ContainerState.ofNode (maskedFrame (sizedMask none)).props [] = .ok state ∧
      state.flowFor (sizedMask none).props = none ∧
      Layout.compute (sizedMask none).props false state.frame none = .ok layout ∧
      Compile.Returns (compileItem "" state (maskedItem (sizedMask none))) group ∧
      layout.width = 10 ∧ group.box.layout.width = 0 := by
  obtain ⟨state, layout, group, entered, loose, computed, built, held⟩ :=
    exists_group (sizedMask none)
      (fun group layout => layout.width == 10 && group.width == 0) (by decide +kernel)
  rw [Bool.and_eq_true, beq_iff_eq, beq_iff_eq] at held
  exact ⟨state, layout, group, entered, loose, computed, built, held⟩

end Artboard
