import Artboard.Proofs.Layout.Computation
import Artboard.Proofs.Scene.Enumeration

/-!
# Layouts of a scene

A box is relative where its node takes part in the flow of the container above
it, and absolute everywhere else. What its layout says about the flow, about its
children and about a wrapper fits the one or the other.
-/
namespace Artboard

variable {α : Type} [Scalar α]

/-- What layouts need of numbers: zero is not positive, and equal lengths are not apart. Both hold
of floating-point numbers too, where an undefined number is neither equal to nor less than any. -/
structure Scalar.ComparesLengths (α : Type) [Scalar α] : Prop where
  zero : ¬ (0.0 : α) < 0.0
  equal : ∀ first second : α, (first == second) = true → ¬ 1e-2 < Scalar.abs (second - first)

theorem Scalar.comparesLengths_rat : Scalar.ComparesLengths Rat where
  zero := by decide +kernel
  equal := by
    intro first second same
    obtain rfl : first = second := eq_of_beq same
    have none : first - first = 0 := Rat.sub_self
    rw [none]
    decide +kernel

namespace Layout

/-! ### Layouts by themselves -/

/-- A layout holds together: each of its parts is there only with what the part is for. -/
structure Coherent (layout : Layout α) : Prop where
  relative : layout.position = .relative →
    layout.left = 0.0 ∧ layout.top = 0.0 ∧ layout.origin = .center
  absolute : layout.position = .absolute →
    layout.origin = .topLeft ∧ layout.wrapper = none ∧ layout.item = .none
  shrink : layout.item.shrink.isSome ↔ 0.0 < layout.item.grow
  basis : layout.item.basis.isSome ↔ 0.0 < layout.item.grow
  gap : ∀ gap ∈ layout.container.gap,
    layout.container.justifyContent ≠ some "space-between" ∧ 0.0 < gap
  rowGap : layout.container.rowGap.isSome →
    layout.container.direction = some "row" ∧ layout.container.wrap = some "wrap"
  columnGap : layout.container.columnGap.isSome →
    layout.container.direction = some "column" ∧ layout.container.wrap = some "wrap"
  wrapper : ∀ wrapper ∈ layout.wrapper,
    (layout.width == wrapper.contentWidth) = false ∨
      (layout.height == wrapper.contentHeight) = false

/-- Lengths in words do not matter to the rest of a layout. -/
theorem Coherent.withLengths {layout : Layout α} (coherent : layout.Coherent)
    (cssWidth cssHeight : Option String) : Coherent { layout with cssWidth, cssHeight } :=
  ⟨coherent.relative, coherent.absolute, coherent.shrink, coherent.basis, coherent.gap,
    coherent.rowGap, coherent.columnGap, coherent.wrapper⟩

omit [Scalar α] in
theorem setAuto_eq (layout : Layout α) (axis : Axis) :
    ∃ cssWidth cssHeight, layout.setAuto axis = { layout with cssWidth, cssHeight } := by
  cases axis
  · exact ⟨some "auto", layout.cssHeight, rfl⟩
  · exact ⟨layout.cssWidth, some "auto", rfl⟩

omit [Scalar α] in
/-- Whether a box gives up a length of its own changes nothing but the words for it. -/
theorem hug_eq (hugs : Bool) (axis : Axis) (layout : Layout α) :
    ∃ cssWidth cssHeight, layout.hug hugs axis = { layout with cssWidth, cssHeight } := by
  simp only [hug]
  generalize (hugs && !_) = autos
  cases autos with
  | false => exact ⟨layout.cssWidth, layout.cssHeight, rfl⟩
  | true => exact setAuto_eq layout axis

/-- A frame with automatic layout becomes a flex container. -/
def forChildren (node : NodeProps α) (layout : Layout α) : Layout α :=
  if node.isAutoLayout then { layout with display := .flex, container := flexContainer node }
  else layout

theorem withFlow_eq (node : NodeProps α) (flows : Bool) (layout : Layout α) :
    ∃ cssWidth cssHeight,
      layout.withFlow node flows = { layout.forChildren node with cssWidth, cssHeight } := by
  unfold withFlow forChildren
  split
  case isFalse => exact ⟨layout.cssWidth, layout.cssHeight, rfl⟩
  case isTrue =>
    dsimp only
    split
    case isFalse => exact ⟨layout.cssWidth, layout.cssHeight, rfl⟩
    case isTrue =>
      -- A frame may hug its content along both axes, one after the other.
      obtain ⟨_, _, first⟩ := hug_eq node.primaryAxisHugs (FlowAxes.ofMode node.layoutMode).main
        { layout with display := .flex, container := flexContainer node }
      rw [first]
      exact hug_eq node.counterAxisHugs (FlowAxes.ofMode node.layoutMode).cross _

theorem Coherent.forChildren {layout : Layout α} (coherent : layout.Coherent)
    (node : NodeProps α) : (layout.forChildren node).Coherent := by
  unfold Layout.forChildren
  split
  case isFalse => exact coherent
  case isTrue =>
    refine ⟨coherent.relative, coherent.absolute, coherent.shrink, coherent.basis, ?gap, ?row,
      ?column, coherent.wrapper⟩
    case gap =>
      intro gap member
      simp only [flexContainer, Option.mem_def] at member
      split at member
      case isTrue holds =>
        cases member
        exact holds
      case isFalse => cases member
    -- The gap between lines is one of rows or one of columns, and only lines that wrap have it.
    all_goals
      intro present
      simp only [flexContainer] at present ⊢
      cases horizontal : node.layoutMode == .horizontal <;> cases wraps : node.wraps <;>
        simp_all

/-- What a frame declares for its content leaves its place alone, and its wrapper keeps the size
of the content. -/
theorem Coherent.withContainer {layout : Layout α} (coherent : layout.Coherent)
    (node : NodeProps α) (flows : Bool) : (layout.withContainer node flows).Coherent := by
  obtain ⟨cssWidth, cssHeight, same⟩ := withFlow_eq node flows layout
  have flowing : (layout.withFlow node flows).Coherent :=
    same ▸ (coherent.forChildren node).withLengths cssWidth cssHeight
  refine ⟨flowing.relative, ?absolute, flowing.shrink, flowing.basis, flowing.gap,
    flowing.rowGap, flowing.columnGap, ?wrapper⟩
  case absolute =>
    intro absolute
    obtain ⟨origin, unwrapped, item⟩ := flowing.absolute absolute
    refine ⟨origin, ?_, item⟩
    simp only [Layout.withContainer, unwrapped, Option.map_none]
  case wrapper =>
    intro wrapper member
    obtain ⟨wrapped, inside, rfl⟩ := Option.map_eq_some_iff.mp member
    exact flowing.wrapper wrapped inside

theorem coherent_ofPlace (laws : Scalar.ComparesLengths α) (place : Place α) :
    (ofPlace place).Coherent := by
  refine ⟨?_, fun _ => ⟨rfl, rfl, rfl⟩, ?_, ?_, ?_, ?_, ?_, ?_⟩
  all_goals simp [ofPlace, plain, FlexContainer.none, FlexItem.none, laws.zero]

/-- An item has a factor to shrink by and a basis where it grows. -/
theorem flowItem_grows (node : NodeProps α) (kind : NodeKind) (flow : Flow) (size : Size α) :
    ((flowItem node kind flow size).shrink.isSome ↔ 0.0 < (flowItem node kind flow size).grow) ∧
      ((flowItem node kind flow size).basis.isSome ↔
        0.0 < (flowItem node kind flow size).grow) := by
  unfold flowItem
  by_cases grows : 0.0 < node.layoutGrow
  · simp [grows]
  · simp [grows]

/-- A box has a wrapper in the flow only where its content differs from what it takes there. -/
theorem flowSize_wrapper (laws : Scalar.ComparesLengths α) {kind : NodeKind} {place : Place α}
    {map : Affine α} {size : Size α} {wrapper : Wrapper α}
    (wrapped : (flowSize kind place map size).2 = some wrapper) :
    ((flowSize kind place map size).1.width == wrapper.contentWidth) = false ∨
      ((flowSize kind place map size).1.height == wrapper.contentHeight) = false := by
  have apart {first second : α} (far : 1e-2 < Scalar.abs (second - first)) :
      (first == second) = false := by
    by_contra same
    exact laws.equal first second (by simpa using same) far
  unfold flowSize at wrapped ⊢
  split at wrapped
  case isTrue vector =>
    split at wrapped
    case isTrue far =>
      cases wrapped
      rw [if_pos vector]
      exact far.imp apart apart
    case isFalse => cases wrapped
  case isFalse other =>
    dsimp only at wrapped
    split at wrapped
    case isTrue differs =>
      cases wrapped
      rw [if_neg other]
      exact differs
    case isFalse => cases wrapped

theorem coherent_inFlow (laws : Scalar.ComparesLengths α) (node : NodeProps α) (kind : NodeKind)
    (flow : Flow) (place : Place α) (map : Affine α) (size : Size α) :
    (inFlow node kind flow place map size).Coherent := by
  have posed : Coherent
      { ofPlace place with
        position := .relative, left := 0.0, top := 0.0, origin := .center
        width := (flowSize kind place map size).1.width
        height := (flowSize kind place map size).1.height
        wrapper := (flowSize kind place map size).2
        item := flowItem node kind flow (flowSize kind place map size).1 } := by
    obtain ⟨shrink, basis⟩ := flowItem_grows node kind flow (flowSize kind place map size).1
    have alone := coherent_ofPlace laws place
    exact ⟨fun _ => ⟨rfl, rfl, rfl⟩, nofun, shrink, basis, alone.gap, alone.rowGap,
      alone.columnGap, fun _ => flowSize_wrapper laws⟩
  simp only [inFlow]
  split
  case h_2 => exact posed
  case h_1 axis _ =>
    obtain ⟨cssWidth, cssHeight, same⟩ := setAuto_eq _ axis
    rw [same]
    exact posed.withLengths cssWidth cssHeight

/-- A layout starts from the place of its node, or from the flow that takes the node. -/
inductive Starts (node : NodeProps α) : Option Flow → Layout α → Prop
  | placed (place) : Starts node none (ofPlace place)
  | flowing (flow place map size) :
      Starts node (some flow) (inFlow node (NodeKind.ofNode node) flow place map size)

theorem compute_cases {node : NodeProps α} {flows : Bool} {parent : Affine α}
    {flow : Option Flow} {layout : Layout α}
    (computed : compute node flows parent flow = .ok layout) :
    ∃ start, Starts node flow start ∧ layout = start.filled node flows := by
  obtain ⟨_, _, place, -, -, -, ⟨rfl, rfl⟩ | ⟨taken, size, rfl, -, rfl⟩⟩ :=
    compute_eq_ok_iff.mp computed
  · exact ⟨_, .placed place, rfl⟩
  · exact ⟨_, .flowing taken place _ size, rfl⟩

theorem Starts.position_iff {node : NodeProps α} {flow : Option Flow} {start : Layout α}
    (starts : Starts node flow start) : start.position = .relative ↔ flow.isSome := by
  cases starts with
  | placed => simp [ofPlace, plain]
  | flowing flow place map size =>
    simp only [Option.isSome_some, iff_true, inFlow]
    split
    case h_1 axis _ => cases axis <;> rfl
    case h_2 => rfl

theorem Starts.display {node : NodeProps α} {flow : Option Flow} {start : Layout α}
    (starts : Starts node flow start) : start.display = .block := by
  cases starts with
  | placed => rfl
  | flowing flow place map size =>
    simp only [inFlow]
    split
    case h_1 axis _ => cases axis <;> rfl
    case h_2 => rfl

theorem coherent_compute (laws : Scalar.ComparesLengths α) {node : NodeProps α} {flows : Bool}
    {parent : Affine α} {flow : Option Flow} {layout : Layout α}
    (computed : compute node flows parent flow = .ok layout) : layout.Coherent := by
  obtain ⟨start, starts, rfl⟩ := compute_cases computed
  have posed : start.Coherent := by
    cases starts with
    | placed place => exact coherent_ofPlace laws place
    | flowing flow place map size => exact coherent_inFlow laws node _ flow place map size
  have named : (start.withSymbolicLengths node).Coherent := posed.withLengths _ _
  unfold filled
  split
  · exact named.withContainer node flows
  · exact named

/-- A layout is relative where there is a flow. -/
theorem compute_position_iff {node : NodeProps α} {flows : Bool} {parent : Affine α}
    {flow : Option Flow} {layout : Layout α}
    (computed : compute node flows parent flow = .ok layout) :
    layout.position = .relative ↔ flow.isSome := by
  obtain ⟨start, starts, rfl⟩ := compute_cases computed
  rw [← starts.position_iff, filled]
  split
  case isFalse => rfl
  case isTrue =>
    obtain ⟨_, _, same⟩ := withFlow_eq node flows (start.withSymbolicLengths node)
    simp only [withContainer, same, forChildren]
    split <;> rfl

/-- A layout is that of a flex container where the node is a frame with automatic layout. -/
theorem compute_display_iff {node : NodeProps α} {flows : Bool} {parent : Affine α}
    {flow : Option Flow} {layout : Layout α}
    (computed : compute node flows parent flow = .ok layout) :
    layout.display = .flex ↔ NodeKind.ofNode node = .frame ∧ node.isAutoLayout := by
  obtain ⟨start, starts, rfl⟩ := compute_cases computed
  unfold filled
  split
  case isFalse other =>
    change start.display = .flex ↔ _
    simp [starts.display, other]
  case isTrue isFrame =>
    obtain ⟨_, _, same⟩ := withFlow_eq node flows (start.withSymbolicLengths node)
    have unset : (start.withSymbolicLengths node).display = .block := starts.display
    simp only [withContainer, same, forChildren, isFrame, true_and]
    split
    case isTrue flowing => simp [flowing]
    case isFalse alone => simp [unset, alone]

end Layout

/-- The box of a mask holds together as any other does. -/
theorem coherent_maskLayout (laws : Scalar.ComparesLengths α) (mask : NodeProps α)
    (map : Affine α) (inFlow : Bool) : (maskLayout mask map inFlow).Coherent := by
  have alone := Layout.coherent_ofPlace laws
    ⟨map.e, map.f, mask.numericLength .width, mask.numericLength .height, map.linear⟩
  cases inFlow with
  | false => exact alone
  | true =>
    exact ⟨fun _ => ⟨rfl, rfl, rfl⟩, nofun, alone.shrink, alone.basis, alone.gap, alone.rowGap,
      alone.columnGap, alone.wrapper⟩

/-! ### Layouts in their scene -/

/-- The entry takes part in the flow of the container above it. -/
def Entry.Flows (entry : Entry α) : Prop :=
  (∃ container ∈ entry.ancestors.head?, container.props.isAutoLayout = true) ∧
    entry.node.props.absolutelyPositioned = false ∧ entry.cover = none

omit [Scalar α] in
theorem Entry.isSome_flow_iff (entry : Entry α) : entry.flow.isSome ↔ entry.Flows := by
  obtain ⟨node, isGroup, ancestors, cover⟩ := entry
  cases cover with
  | some mask => simp [Entry.flow, Entry.Flows]
  | none =>
    cases ancestors with
    | nil => simp [Entry.flow, Entry.Flows]
    | cons container outer =>
      cases node.props.absolutelyPositioned <;>
        cases auto : container.props.isAutoLayout <;>
          simp [Entry.flow, Entry.Flows, flowOf, *]

/-- A box is laid out for its entry: it is relative in a flow, and a flex container where it shows
a frame that has one. -/
structure LaidOut (entry : Entry α) (box : SceneBox α) : Prop where
  position : box.layout.position = .relative ↔ entry.Flows
  display : box.layout.display = .flex ↔
    entry.isGroup = false ∧ NodeKind.ofNode entry.node.props = .frame ∧
      (entry.node.props.layoutMode = .horizontal ∨ entry.node.props.layoutMode = .vertical)
  coherent : box.layout.Coherent

theorem laidOut_of_compiledAs (laws : Scalar.ComparesLengths α) {template : String}
    {root : Affine α} {entry : Entry α} {box : SceneBox α}
    (compiled : CompiledAs template root entry box) : LaidOut entry box := by
  cases compiled with
  | node alone placed returned =>
    obtain ⟨-, layout, _, _, computed, -, -, rfl⟩ := compileBox_cases returned
    refine ⟨?position, ?display, Layout.coherent_compute laws computed⟩
    case position =>
      rw [← Entry.isSome_flow_iff, ← placed.flow]
      exact Layout.compute_position_iff computed
    case display =>
      refine (Layout.compute_display_iff computed).trans ?_
      cases mode : entry.node.props.layoutMode <;> simp [alone, NodeProps.isAutoLayout, mode]
  | group grouped placed =>
    refine ⟨?position, ?display, coherent_maskLayout laws _ _ _⟩
    case position =>
      rw [← Entry.isSome_flow_iff, ← placed.flow]
      simp only [maskBox, maskLayout]
      split <;> simp [Layout.plain, *]
    case display =>
      simp only [maskBox, maskLayout]
      split <;> simp [Layout.plain, grouped]

/-- Every box of a composition that compiles is laid out for its place in the walk. -/
theorem boxes_are_laid_out (laws : Scalar.ComparesLengths α) {template : String}
    {provider : FontProvider} {composition : Composition α} {scene : CompiledScene α}
    (compiled : compileComposition template provider composition = .ok scene) :
    List.Forall₂ (Follows LaidOut) composition.walk scene.nodes :=
  (follows_walk compiled).imp (Follows.mono fun _ _ => laidOut_of_compiledAs laws)

/-- A row that wraps, with a turned node, one that grows, one out of the flow and a mask. -/
def flowingSketch : Composition Rat where
  name := "flowing"
  absOrigin := some ⟨0, 0⟩
  bounds := none
  children :=
    [.mk { plainProps "row" "FRAME" ⟨1, 0, 0, 1, 0, 0⟩ with
           layoutMode := .horizontal, wraps := true, itemSpacing := 8, counterAxisSpacing := 4 }
      [.mk (plainProps "turned" "RECTANGLE" ⟨0, 1, -1, 0, 30, 0⟩) [],
       .mk { plainProps "grown" "RECTANGLE" ⟨1, 0, 0, 1, 40, 0⟩ with layoutGrow := 1 } [],
       .mk { plainProps "loose" "RECTANGLE" ⟨1, 0, 0, 1, 50, 5⟩ with
             absolutelyPositioned := true } [],
       .mk { plainProps "mask" "RECTANGLE" ⟨1, 0, 0, 1, 60, 0⟩ with isMask := true } [],
       .mk (plainProps "covered" "RECTANGLE" ⟨1, 0, 0, 1, 61, 2⟩) []]]

theorem flowingSketch_laidOut :
    ∃ scene, compileComposition "" (fun _ => none) flowingSketch = .ok scene ∧
      (SceneNode.preorders scene.nodes).map (·.layout.position) =
        [.absolute, .relative, .relative, .absolute, .relative, .absolute] ∧
      (SceneNode.preorders scene.nodes).map (·.layout.wrapper.isSome) =
        [false, true, false, false, false, false] ∧
      List.Forall₂ (Follows LaidOut) flowingSketch.walk scene.nodes := by
  obtain ⟨scene, compiled, laid⟩ := Except.exists_of_any
    (fun scene =>
      (SceneNode.preorders scene.nodes).map (·.layout.position) ==
          [.absolute, .relative, .relative, .absolute, .relative, .absolute] &&
        (SceneNode.preorders scene.nodes).map (·.layout.wrapper.isSome) ==
          [false, true, false, false, false, false])
    (show (compileComposition "" (fun _ => none) flowingSketch).toOption.any _ = true by
      decide +kernel)
  obtain ⟨positions, wrappers⟩ := Bool.and_eq_true_iff.mp laid
  exact ⟨scene, compiled, eq_of_beq positions, eq_of_beq wrappers,
    boxes_are_laid_out Scalar.comparesLengths_rat compiled⟩

end Artboard
