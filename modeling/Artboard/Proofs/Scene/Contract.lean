import Artboard.Proofs.Scene.Enumeration
import Artboard.Proofs.Scene.Failure
import Artboard.Proofs.Scene.Groups

/-!
# The contract of a composition

Compilation reaches the visible top-level nodes and, below a reached frame, the
visible children that are no masks; a mask that covers one of these is reached as
the frame of its group. A composition compiles exactly where what is reached can
be placed. Otherwise the fault names a node that breaks the contract.
-/
namespace Artboard

variable {α : Type}

namespace Composition

/-- The node is visible and no mask below a container, and so is every node above it, each of
them a frame. -/
inductive Reaches (composition : Composition α) : Node α → Prop
  | top {node} : node ∈ composition.children → node.props.visible = true → Reaches composition node
  | child {container node} : Reaches composition container →
      NodeKind.ofNode container.props = .frame → node ∈ container.children →
      node.props.visible = true → node.props.isMask = false → Reaches composition node

/-- The mask, below a reached frame, covers the node, which is visible. -/
structure CoversBelow (composition : Composition α) (container mask node : Node α) : Prop where
  reached : composition.Reaches container
  isFrame : NodeKind.ofNode container.props = .frame
  covers : Covers container.children mask node
  visible : node.props.visible = true

/-- The mask, below a reached frame, covers a visible sibling. -/
def Masks (composition : Composition α) (mask : Node α) : Prop :=
  ∃ container node, composition.CoversBelow container mask node

variable [Scalar α]

/-- What a composition must keep to be compiled. -/
structure KeepsContract (composition : Composition α) : Prop where
  origin : ∃ origin, composition.absOrigin = some origin
  transform : ∀ node, composition.Reaches node →
    ∃ frame, node.props.absoluteTransform = some frame
  container : ∀ node, composition.Reaches node → NodeKind.ofNode node.props = .frame →
    node.children ≠ [] →
    ∃ frame inverse, node.props.absoluteTransform = some frame ∧ frame.invert = some inverse
  mask : ∀ mask, composition.Masks mask →
    ∃ frame inverse, mask.props.absoluteTransform = some frame ∧ frame.invert = some inverse
  vectorBounds : ∀ node, composition.Reaches node → NodeKind.ofNode node.props = .svg →
    ∃ bounds, node.props.renderBounds = some bounds
  size : ∀ node, composition.Reaches node → NodeKind.ofNode node.props ≠ .svg →
    ∀ axis, node.props.IsMeasured axis
  topLevelBounds : ∀ node ∈ composition.children,
    ∃ bounds, node.props.renderBounds = some bounds

/-- The ways to break the contract. A singular mask is blamed on a node that it covers. -/
inductive Breaks (composition : Composition α) : Violation → Prop
  | origin : composition.absOrigin = none → Breaks composition .missingOrigin
  | transform {node} : composition.Reaches node → node.props.absoluteTransform = none →
      Breaks composition (.missingTransform node.props.id)
  | maskTransform {mask} : composition.Masks mask → mask.props.absoluteTransform = none →
      Breaks composition (.missingMaskTransform mask.props.id)
  | container {node frame} : composition.Reaches node → NodeKind.ofNode node.props = .frame →
      node.children ≠ [] → node.props.absoluteTransform = some frame → frame.invert = none →
      Breaks composition (.singularContainer node.props.id)
  | covered {container mask node frame} : composition.CoversBelow container mask node →
      mask.props.absoluteTransform = some frame → frame.invert = none →
      Breaks composition (.singularParent node.props.id)
  | vectorBounds {node} : composition.Reaches node → NodeKind.ofNode node.props = .svg →
      node.props.renderBounds = none → Breaks composition (.missingVectorBounds node.props.id)
  | size {node axis} : composition.Reaches node → NodeKind.ofNode node.props ≠ .svg →
      ¬ node.props.IsMeasured axis →
      Breaks composition (.invalidSize axis (node.props.declaredSize axis) node.props.id)
  | topLevelBounds {index node} : composition.children[index]? = some node →
      node.props.renderBounds = none →
      Breaks composition (.missingTopLevelBounds index node.props.id)

end Composition

/-! ### What compilation returns is placed -/

open Compile

section Returned

variable [Scalar α] {template : String}

/-- A node that is compiled refuses no place where it is put. -/
private theorem exists_not_refuses {node : Node α} {place : Surroundings α} {drawn : SceneNode α}
    (returned : Returns (compileNode template node place) drawn) (cause : Violation) :
    ¬ node.props.Refuses place.frame cause := by
  cases node with
  | mk props children =>
    obtain ⟨box, below, -, boxed, -⟩ := compileNode_cases returned
    obtain ⟨-, layout, _, _, placed, -⟩ := compileBox_cases boxed
    exact not_refuses_of_compute placed cause

/-- What is compiled below a container with children: its state, and its items in that state. -/
private theorem items_returned {container : Node α} {place : Surroundings α}
    {drawn : SceneNode α} (returned : Returns (compileNode template container place) drawn)
    (isFrame : NodeKind.ofNode container.props = .frame) (filled : container.children ≠ []) :
    ∃ state, ContainerState.ofNode container.props place.inherited = .ok state ∧
      ∀ item ∈ itemsOf container.props container.children, ∃ drawn,
        ItemReturns template state item drawn := by
  cases container with
  | mk props children =>
    obtain ⟨box, below, -, -, compiled⟩ := compileNode_cases returned
    cases compiled with
    | leaf other => exact (other isFrame).elim
    | bare none => exact (filled none).elim
    | items _ entered traversed =>
      refine ⟨_, entered, fun item member => ?_⟩
      obtain ⟨drawn, -, compiled⟩ := exists_of_mem_left traversed member
      exact ⟨drawn, compiled⟩

/-- A mask that covers a visible node has a transform, in whose frame the node is compiled. -/
private theorem covered_returned {container mask node : Node α} {place : Surroundings α}
    {drawn : SceneNode α} (returned : Returns (compileNode template container place) drawn)
    (isFrame : NodeKind.ofNode container.props = .frame)
    (covers : Covers container.children mask node) (visible : node.props.visible = true) :
    ∃ absolute inherited below, mask.props.absoluteTransform = some absolute ∧
      Returns (compileNode template node
        { frame := absolute, inherited, flow := none, itemCss := ∅ }) below := by
  have filled : container.children ≠ [] := by
    obtain ⟨before, between, after, same, -⟩ := covers
    simp [same]
  obtain ⟨state, -, compiled⟩ := items_returned returned isFrame filled
  obtain ⟨covered, css, member, inside⟩ := item_of_covers container.props covers visible
  obtain ⟨_, compiled⟩ := compiled _ member
  cases compiled with
  | masked known _ below =>
    obtain ⟨drawn, -, returned⟩ :=
      exists_of_mem_left below (List.mem_filter.mpr ⟨inside, by simpa using visible⟩)
    exact ⟨_, _, drawn, known, returned⟩

variable {composition : Composition α} {origin : Point α} {nodes : List (SceneNode α)}

/-- Whatever a composition that compiles reaches is compiled somewhere. -/
private theorem reached_returned
    (returned : Returns (compileTopLevel template origin composition.children) nodes)
    {node : Node α} (reached : composition.Reaches node) :
    ∃ place drawn, Returns (compileNode template node place) drawn := by
  induction reached with
  | top member visible =>
    obtain ⟨drawn, -, compiled⟩ :=
      exists_of_mem_left returned.mapM (List.mem_filter.mpr ⟨member, by simpa using visible⟩)
    exact ⟨_, drawn, compiled⟩
  | @child container node _ isFrame member visible unmasked ih =>
    obtain ⟨place, drawn, returned⟩ := ih
    rcases item_of_child container.props member visible unmasked with
      ⟨css, alone⟩ | ⟨mask, covers⟩
    · obtain ⟨_, -, compiled⟩ := items_returned returned isFrame (List.ne_nil_of_mem member)
      obtain ⟨drawn, compiled⟩ := compiled _ alone
      cases compiled with
      | single compiled => exact ⟨_, drawn, compiled⟩
    · obtain ⟨_, _, drawn, -, compiled⟩ := covered_returned returned isFrame covers visible
      exact ⟨_, drawn, compiled⟩

end Returned

/-! ### Bounds and top-level nodes -/

private theorem bounds_of_boundsFrom {nodes : List (Node α)} :
    ∀ {index rects}, boundsFrom index nodes = .ok rects →
      ∀ node ∈ nodes, ∃ bounds, node.props.renderBounds = some bounds := by
  induction nodes with
  | nil => simp
  | cons first rest ih =>
    intro index rects found
    unfold boundsFrom at found
    split at found
    · cases found
    next bounds known =>
      obtain ⟨others, found, -⟩ := Except.bind_eq_ok_iff.mp found
      exact List.forall_mem_cons.mpr ⟨⟨bounds, known⟩, ih found⟩

private theorem boundsFrom_error {nodes : List (Node α)} :
    ∀ {index fault}, boundsFrom index nodes = .error fault →
      ∃ offset node, nodes[offset]? = some node ∧ node.props.renderBounds = none ∧
        fault = .violation (.missingTopLevelBounds (index + offset) node.props.id) := by
  induction nodes with
  | nil => nofun
  | cons first rest ih =>
    intro index fault failed
    unfold boundsFrom at failed
    split at failed
    next none => cases failed; exact ⟨0, first, rfl, none, rfl⟩
    next bounds known =>
      cases found : boundsFrom (index + 1) rest with
      | ok others => rw [found] at failed; cases failed
      | error cause =>
        rw [found] at failed
        cases failed
        obtain ⟨offset, node, here, none, rfl⟩ := ih found
        exact ⟨offset + 1, node, here, none, by rw [Nat.add_assoc, Nat.add_comm 1]⟩

section Composed

variable [Scalar α] {template : String} {provider : FontProvider} {composition : Composition α}

/-- The union of the bounds is found for every composition that compiles. -/
private theorem bounds_of_compiled {scene : CompiledScene α}
    (compiled : compileComposition template provider composition = .ok scene) :
    ∀ node ∈ composition.children, ∃ bounds, node.props.renderBounds = some bounds := by
  unfold compileComposition at compiled
  dsimp only at compiled
  split at compiled
  next none => simp [List.isEmpty_iff.mp none]
  next filled =>
    split at compiled
    · cases compiled
    next origin known =>
      obtain ⟨nodes, -, compiled⟩ := Except.bind_eq_ok_iff.mp compiled
      obtain ⟨union, united, -⟩ := Except.bind_eq_ok_iff.mp compiled
      obtain ⟨rects, found, -⟩ := Except.bind_eq_ok_iff.mp united
      exact bounds_of_boundsFrom found

/-- A composition fails for want of an origin, at a top-level node or at a missing bound. -/
private theorem compileComposition_error {fault : Fault}
    (failed : compileComposition template provider composition = .error fault) :
    (composition.absOrigin = none ∧ fault = .violation .missingOrigin) ∨
      ∃ origin, composition.absOrigin = some origin ∧
        (Fails (compileTopLevel template origin composition.children) fault ∨
          boundsFrom 0 composition.children = .error fault) := by
  unfold compileComposition at failed
  dsimp only at failed
  split at failed
  · cases failed
  · split at failed
    next none => cases failed; exact .inl ⟨none, rfl⟩
    next origin known =>
      refine .inr ⟨origin, known, ?_⟩
      cases run : StateT.run (ExceptT.run (compileTopLevel template origin composition.children))
          PseudoRules.empty with
      | mk ended rules =>
        rw [run] at failed
        cases ended with
        | error cause => cases failed; exact .inl ⟨.empty, rules, run⟩
        | ok nodes =>
          cases found : boundsFrom 0 composition.children with
          | error cause =>
            simp only [renderUnion, found] at failed
            cases failed
            exact .inr rfl
          | ok rects =>
            cases rects <;> simp only [renderUnion, found] at failed <;> cases failed

/-- The fault comes from a conversion or from a broken contract. -/
def Composition.Explains (composition : Composition α) (fault : Fault) : Prop :=
  fault.isConversion = true ∨ ∃ cause, fault = .violation cause ∧ composition.Breaks cause

private theorem breaks_of_refuses {node : Node α} {parent : Affine α} {cause : Violation}
    (reached : composition.Reaches node)
    (above : parent.invert = none → composition.Breaks (.singularParent node.props.id))
    (refuses : node.props.Refuses parent cause) : composition.Breaks cause := by
  cases refuses with
  | transform none => exact .transform reached none
  | parent singular => exact above singular
  | vectorBounds vector none => exact .vectorBounds reached vector none
  | size other unmeasured => exact .size reached other unmeasured

/-- The step: a container fails for itself or at a node below it. -/
private theorem explains_of_compileChildren {props : NodeProps α} {children : List (Node α)}
    {inherited : List (Shadow α)} {frame : Affine α} {fault : Fault}
    (reached : composition.Reaches (.mk props children))
    (isFrame : NodeKind.ofNode props = .frame) (known : props.absoluteTransform = some frame)
    (below : ∀ node ∈ children, ∀ place : Surroundings α, composition.Reaches node →
      (place.frame.invert = none → composition.Breaks (.singularParent node.props.id)) →
      Fails (compileNode template node place) fault → composition.Explains fault)
    (failed : Fails (compileChildren template props inherited (childrenOf template children))
      fault) : composition.Explains fault := by
  unfold compileChildren at failed
  split at failed
  · exact (not_fails_pure failed).elim
  next inhabited =>
    have filled : children ≠ [] := by
      rintro rfl
      exact inhabited rfl
    rcases failed.bind with entering | ⟨state, entered, failed⟩
    · rcases container_error known (fails_ofExcept_iff.mp entering) with ⟨singular, rfl⟩ | converts
      · exact .inr ⟨_, rfl, .container reached isFrame filled known singular⟩
      · exact .inl converts
    obtain ⟨-, inverted, -, -⟩ := ContainerState.ofNode_cases (returns_ofExcept_iff.mp entered)
    have reaches : ∀ node ∈ children, node.props.visible = true → node.props.isMask = false →
        composition.Reaches node := fun _ => .child reached isFrame
    rw [stackItems_childrenOf] at failed
    obtain ⟨_, mapped, failed⟩ := failed.mapM
    obtain ⟨item, member, rfl⟩ := List.mem_map.mp mapped
    have inside : ∀ node ∈ item.group.members, node ∈ children :=
      fun _ => mem_of_mem_itemsOf member
    cases item with
    | single child css =>
      obtain ⟨visible, unmasked⟩ := single_of_item member
      have here := inside child (.head _)
      exact below child here _ (reaches child here visible unmasked)
        (fun singular => by simp [inverted] at singular) failed
    | masked mask covered css =>
      obtain ⟨covers, shown, among, shows⟩ := covers_of_item member
      -- The mask itself is asked for its transform even when it is invisible.
      have masks : composition.Masks mask :=
        ⟨_, shown, reached, isFrame, covers shown among, shows⟩
      simp only [StackItem.map, compileItem, compileMasked, Child.ofNode] at failed
      split at failed
      next none =>
        obtain rfl := fails_stopAt_iff.mp failed
        exact .inr ⟨_, rfl, .maskTransform masks none⟩
      next absolute placed =>
        rcases failed.bind with styling | ⟨_, -, failed⟩
        · exact .inl (onlyConverts_maskBoxCss _ _ _ fault (fails_ofExcept_iff.mp styling))
        rcases failed.bind with traversing | ⟨_, -, joined⟩
        · obtain ⟨_, mapped, failed⟩ := traversing.mapM
          obtain ⟨member, visible⟩ := List.mem_filter.mp mapped
          obtain ⟨node, among, rfl⟩ := List.mem_map.mp member
          have here := inside node (.tail _ among)
          have covered : composition.CoversBelow (.mk props children) mask node :=
            ⟨reached, isFrame, covers node among, visible⟩
          obtain ⟨_, _, _, -, -, unmasked, -⟩ := covers node among
          exact below node here _ (reaches node here visible unmasked)
            (fun singular => .covered covered placed singular) failed
        · exact (not_fails_pure joined).elim

/-- The run: a reached node fails only where the contract is broken or a conversion fails. -/
private theorem explains_of_compileNode {fault : Fault} (node : Node α) :
    ∀ place : Surroundings α, composition.Reaches node →
      (place.frame.invert = none → composition.Breaks (.singularParent node.props.id)) →
      Fails (compileNode template node place) fault → composition.Explains fault := by
  induction node using Node.memInduction with
  | step props children ih =>
    intro place reached above failed
    have visible : props.visible = true := by cases reached <;> assumption
    unfold compileNode at failed
    rcases failed.bind with boxing | ⟨box, boxed, failed⟩
    · rcases fails_compileBox visible boxing with ⟨cause, rfl, refuses⟩ | converts
      · exact .inr ⟨cause, rfl, breaks_of_refuses reached above refuses⟩
      · exact .inl converts
    obtain ⟨-, layout, _, _, placed, -, -, rfl⟩ := compileBox_cases boxed
    split at failed
    next isFrame =>
      have transform : props.absoluteTransform ≠ none := fun none =>
        not_refuses_of_compute placed _ (.transform none)
      obtain ⟨frame, known⟩ := Option.ne_none_iff_exists'.mp transform
      rcases failed.bind with failed | ⟨_, -, joined⟩
      · exact explains_of_compileChildren reached isFrame known ih failed
      · exact (not_fails_pure joined).elim
    · exact (not_fails_pure failed).elim

/-! ### The contract -/

theorem keepsContract_of_compiled {scene : CompiledScene α} (filled : composition.children ≠ [])
    (compiled : compileComposition template provider composition = .ok scene) :
    composition.KeepsContract := by
  obtain ⟨none, -⟩ | ⟨origin, known, run⟩ := compileComposition_cases compiled
  · exact (filled none).elim
  have reached : ∀ {node}, composition.Reaches node → _ := reached_returned ⟨_, _, run⟩
  constructor
  case origin => exact ⟨origin, known⟩
  case transform =>
    intro node here
    obtain ⟨place, drawn, returned⟩ := reached here
    refine Option.ne_none_iff_exists'.mp fun none => ?_
    exact exists_not_refuses returned _ (.transform none)
  case container =>
    intro node here isFrame inhabited
    obtain ⟨place, drawn, returned⟩ := reached here
    obtain ⟨state, entered, -⟩ := items_returned returned isFrame inhabited
    obtain ⟨frame, inverted, -⟩ := ContainerState.ofNode_cases entered
    exact ⟨_, _, frame, inverted⟩
  case mask =>
    rintro mask ⟨container, node, here, isFrame, covers, visible⟩
    obtain ⟨place, drawn, returned⟩ := reached here
    obtain ⟨absolute, _, _, placed, below⟩ := covered_returned returned isFrame covers visible
    -- The mask is the parent of what it covers, and only an invertible parent is accepted.
    have regular : absolute.invert ≠ none := fun singular =>
      exists_not_refuses below _ (.parent singular)
    obtain ⟨inverse, inverted⟩ := Option.ne_none_iff_exists'.mp regular
    exact ⟨absolute, inverse, placed, inverted⟩
  case vectorBounds =>
    intro node here vector
    obtain ⟨place, drawn, returned⟩ := reached here
    refine Option.ne_none_iff_exists'.mp fun none => ?_
    exact exists_not_refuses returned _ (.vectorBounds vector none)
  case size =>
    intro node here other axis
    obtain ⟨place, drawn, returned⟩ := reached here
    by_contra unmeasured
    exact exists_not_refuses returned _ (.size other unmeasured)
  case topLevelBounds => exact bounds_of_compiled compiled

/-- What keeps the contract does not break it. -/
theorem Composition.KeepsContract.not_breaks (keeps : composition.KeepsContract)
    (cause : Violation) : ¬ composition.Breaks cause := by
  intro breaks
  cases breaks with
  | origin none =>
    obtain ⟨origin, known⟩ := keeps.origin
    simp [none] at known
  | transform reached none =>
    obtain ⟨frame, known⟩ := keeps.transform _ reached
    simp [none] at known
  | maskTransform masks none =>
    obtain ⟨frame, inverse, known, -⟩ := keeps.mask _ masks
    simp [none] at known
  | container reached isFrame filled known singular =>
    obtain ⟨frame, inverse, same, inverted⟩ := keeps.container _ reached isFrame filled
    cases known.symm.trans same
    simp [singular] at inverted
  | covered covers known singular =>
    obtain ⟨frame, inverse, same, inverted⟩ := keeps.mask _ ⟨_, _, covers⟩
    cases known.symm.trans same
    simp [singular] at inverted
  | vectorBounds reached vector none =>
    obtain ⟨bounds, known⟩ := keeps.vectorBounds _ reached vector
    simp [none] at known
  | size reached other unmeasured => exact unmeasured (keeps.size _ reached other _)
  | topLevelBounds here none =>
    obtain ⟨bounds, known⟩ := keeps.topLevelBounds _ (List.mem_of_getElem? here)
    simp [none] at known

/-- A composition fails only by a broken contract or a conversion, wherever a shift has an
inverse. -/
theorem explains_of_error {fault : Fault}
    (shifts : ∀ x y : α, ∃ inverse, (Affine.shift x y).invert = some inverse)
    (failed : compileComposition template provider composition = .error fault) :
    composition.Explains fault := by
  rcases compileComposition_error failed with ⟨none, rfl⟩ | ⟨origin, -, nodes | bounds⟩
  · exact .inr ⟨_, rfl, .origin none⟩
  · obtain ⟨node, member, failed⟩ := nodes.mapM
    obtain ⟨here, visible⟩ := List.mem_filter.mp member
    refine explains_of_compileNode node _ (.top here visible) (fun singular => ?_) failed
    obtain ⟨inverse, inverted⟩ := shifts origin.x origin.y
    simp [inverted] at singular
  · obtain ⟨index, node, here, none, rfl⟩ := boundsFrom_error bounds
    rw [Nat.zero_add]
    exact .inr ⟨_, rfl, .topLevelBounds here none⟩

end Composed

/-! ### Who breaks the contract -/

namespace Composition

/-- The composition has the node, at whatever depth. -/
def Contains (composition : Composition α) (node : Node α) : Prop :=
  node ∈ Node.preorders composition.children

private theorem mem_preorders_iff_node {node : Node α} {nodes : List (Node α)} :
    node ∈ Node.preorders nodes ↔ ∃ top ∈ nodes, node ∈ top.preorder := by
  induction nodes with
  | nil => simp [Node.preorders]
  | cons first rest ih => simp [Node.preorders, ih]

private theorem self_mem_preorder (node : Node α) : node ∈ node.preorder := by
  cases node
  simp [Node.preorder]

private theorem mem_preorder_of_child {container child : Node α}
    (inside : child ∈ container.children) (node : Node α) :
    container ∈ node.preorder → child ∈ node.preorder := by
  induction node using Node.memInduction with
  | step props children ih =>
    intro member
    rw [Node.preorder] at member ⊢
    rcases List.mem_cons.mp member with rfl | member
    · exact .tail _ (mem_preorders_iff_node.mpr ⟨child, inside, self_mem_preorder child⟩)
    · obtain ⟨top, here, within⟩ := mem_preorders_iff_node.mp member
      exact .tail _ (mem_preorders_iff_node.mpr ⟨top, here, ih top here within⟩)

variable {composition : Composition α} {container node : Node α}

private theorem contains_top (member : node ∈ composition.children) : composition.Contains node :=
  mem_preorders_iff_node.mpr ⟨node, member, self_mem_preorder node⟩

theorem Contains.child (contains : composition.Contains container)
    (inside : node ∈ container.children) : composition.Contains node := by
  obtain ⟨top, here, within⟩ := mem_preorders_iff_node.mp contains
  exact mem_preorders_iff_node.mpr ⟨top, here, mem_preorder_of_child inside top within⟩

theorem Reaches.contains (reached : composition.Reaches node) : composition.Contains node := by
  induction reached with
  | top member _ => exact contains_top member
  | child _ _ inside _ _ ih => exact ih.child inside

theorem CoversBelow.contains {mask : Node α} (covers : composition.CoversBelow container mask node) :
    composition.Contains mask ∧ composition.Contains node := by
  obtain ⟨reached, -, ⟨before, between, after, same, -⟩, -⟩ := covers
  exact ⟨reached.contains.child (by simp [same]), reached.contains.child (by simp [same])⟩

/-- All but a missing origin is the fault of a node of the composition. -/
theorem Breaks.contains [Scalar α] {cause : Violation} (breaks : composition.Breaks cause)
    (placed : cause ≠ .missingOrigin) :
    ∃ node, composition.Contains node ∧ cause.node? = some node.props.id := by
  cases breaks with
  | origin => exact (placed rfl).elim
  | transform reached _ => exact ⟨_, reached.contains, rfl⟩
  | maskTransform masks _ =>
    obtain ⟨_, _, covers⟩ := masks
    exact ⟨_, covers.contains.1, rfl⟩
  | container reached _ _ _ _ => exact ⟨_, reached.contains, rfl⟩
  | covered covers _ _ => exact ⟨_, covers.contains.2, rfl⟩
  | vectorBounds reached _ _ => exact ⟨_, reached.contains, rfl⟩
  | size reached _ _ => exact ⟨_, reached.contains, rfl⟩
  | topLevelBounds here _ => exact ⟨_, contains_top (List.mem_of_getElem? here), rfl⟩

end Composition

/-- Where no conversion fails and a shift has an inverse, a composition with a node compiles exactly
if it keeps the contract, and fails with a violation that it commits. -/
theorem compiles_iff_keepsContract [Scalar α] {template : String} {provider : FontProvider}
    {composition : Composition α} (filled : composition.children ≠ [])
    (shifts : ∀ x y : α, ∃ inverse, (Affine.shift x y).invert = some inverse)
    (converts : ∀ fault, compileComposition template provider composition = .error fault →
      fault.isConversion = false) :
    ((∃ scene, compileComposition template provider composition = .ok scene) ↔
      composition.KeepsContract) ∧
    ∀ fault, compileComposition template provider composition = .error fault →
      ∃ cause, fault = .violation cause ∧ composition.Breaks cause ∧
        (cause ≠ .missingOrigin →
          ∃ node, composition.Contains node ∧ cause.node? = some node.props.id) := by
  have blamed : ∀ fault, compileComposition template provider composition = .error fault →
      ∃ cause, fault = .violation cause ∧ composition.Breaks cause := by
    intro fault failed
    rcases explains_of_error shifts failed with conversion | breaks
    · simp [converts fault failed] at conversion
    · exact breaks
  refine ⟨⟨fun ⟨scene, compiled⟩ => keepsContract_of_compiled filled compiled, fun keeps => ?_⟩,
    fun fault failed => ?_⟩
  · cases compiled : compileComposition template provider composition with
    | ok scene => exact ⟨scene, rfl⟩
    | error fault =>
      obtain ⟨cause, -, breaks⟩ := blamed fault compiled
      exact (keeps.not_breaks cause breaks).elim
  · obtain ⟨cause, rfl, breaks⟩ := blamed fault failed
    exact ⟨cause, rfl, breaks, breaks.contains⟩

/-- Over the rationals every shift has an inverse. -/
theorem exists_invert_shift (x y : Rat) :
    ∃ inverse, (Affine.shift x y).invert = some inverse := by
  have regular : ¬ (Scalar.isFinite (1.0 * 1.0 - 0.0 * 0.0 : Rat) = false ∨
      Scalar.abs (1.0 * 1.0 - 0.0 * 0.0 : Rat) < 1e-8) := by decide +kernel
  exact ⟨_, if_neg regular⟩

/-- The frame of the sketch with a mask that flattens what it covers. -/
def flatSketch : Composition Rat where
  name := "flat"
  absOrigin := some ⟨1, 2⟩
  bounds := none
  children :=
    [.mk (plainProps "frame" "FRAME" ⟨0, 1, -1, 0, 30, 40⟩)
      [.mk { plainProps "mask" "FRAME" ⟨1, 1, 1, 1, 7, 8⟩ with isMask := true } [],
       .mk (plainProps "covered" "RECTANGLE" ⟨1, 0, 0, 1, 9, 9⟩) []]]

theorem maskedSketch_keeps_contract :
    maskedSketch.KeepsContract ∧ ∃ cause, flatSketch.Breaks cause ∧ cause.node? = some "covered" := by
  constructor
  · obtain ⟨scene, compiled, -⟩ := Except.exists_of_any (fun _ => true)
      (show (compileComposition "" (fun _ => none) maskedSketch).toOption.any _ = true by
        decide +kernel)
    exact (compiles_iff_keepsContract (by simp [maskedSketch]) exists_invert_shift
      (by simp [compiled])).1.mp ⟨scene, compiled⟩
  · have checked : (match compileComposition "" (fun _ => none) flatSketch with
        | .error (.violation cause) => cause.node? == some "covered"
        | _ => false) = true := by decide +kernel
    split at checked
    next cause failed =>
      obtain ⟨other, same, breaks, -⟩ := (compiles_iff_keepsContract (by simp [flatSketch])
        exists_invert_shift (by simp [failed, Fault.isConversion])).2 _ failed
      cases same
      exact ⟨cause, breaks, by simpa using checked⟩
    · cases checked

end Artboard
