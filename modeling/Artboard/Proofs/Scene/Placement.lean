import Artboard.Proofs.Affine
import Artboard.Proofs.Layout.Computation
import Artboard.Proofs.Scene.Enumeration

/-!
# Relative places and absolute geometry

Over the rationals the place of an absolute box, after the frame of the box above
it, is the absolute map of its node. Along absolute boxes the places therefore
multiply up to it. Vector content that cancels the frame is only shifted.
-/
namespace Artboard

variable {α : Type}

/-- The map that a layout stands for: its transform, then its offset. -/
def Layout.map (layout : Layout α) : Affine α := .ofParts layout.transform layout.left layout.top

/-! ### Layouts outside the flow -/

namespace Layout

/-- How a layout is positioned, the point that its transform leaves in place, and where it lies.
Lengths and containers leave these alone. -/
def pose (layout : Layout α) : Position × Origin × Affine α :=
  (layout.position, layout.origin, layout.map)

private theorem setAuto_pose (layout : Layout α) (axis : Axis) :
    (layout.setAuto axis).pose = layout.pose := by
  cases axis <;> rfl

private theorem hug_pose (hugs : Bool) (axis : Axis) (layout : Layout α) :
    (layout.hug hugs axis).pose = layout.pose := by
  simp only [hug]
  generalize (hugs && !_) = autos
  cases autos
  · rfl
  · exact setAuto_pose layout axis

variable [Scalar α]

private theorem withFlow_pose (node : NodeProps α) (flows : Bool) (layout : Layout α) :
    (layout.withFlow node flows).pose = layout.pose := by
  simp only [withFlow]
  split
  · split
    · rw [hug_pose, hug_pose]
      rfl
    · rfl
  · rfl

/-- Symbolic lengths and the container are filled in after the layout is posed. -/
private theorem filled_pose (node : NodeProps α) (flows : Bool) (start : Layout α) :
    (start.filled node flows).pose = start.pose := by
  unfold filled
  split
  · exact withFlow_pose node flows _
  · rfl

private theorem inFlow_pose (node : NodeProps α) (kind : NodeKind) (flow : Flow) (place : Place α)
    (map : Affine α) (size : Size α) :
    (inFlow node kind flow place map size).pose.1 = .relative := by
  simp only [inFlow]
  split
  · rw [setAuto_pose]
    rfl
  · rfl

/-- A layout is relative, or it is posed where the node was placed. -/
private theorem compute_pose {node : NodeProps α} {flows : Bool} {parent : Affine α}
    {flow : Option Flow} {layout : Layout α}
    (computed : compute node flows parent flow = .ok layout) :
    layout.position = .relative ∨
      ∃ own inverse, node.absoluteTransform = some own ∧ parent.invert = some inverse ∧
        ∃ place, Layout.place node inverse (inverse.compose own) = .ok place ∧
          layout.pose = (ofPlace place).pose := by
  obtain ⟨own, inverse, place, known, inverted, placed, ⟨-, rfl⟩ | ⟨taken, size, -, -, rfl⟩⟩ :=
    compute_eq_ok_iff.mp computed
  · exact .inr ⟨own, inverse, known, inverted, place, placed, filled_pose ..⟩
  · exact .inl ((congrArg Prod.fst (filled_pose ..)).trans (inFlow_pose ..))

/-- An absolute layout is posed where the node was placed. -/
theorem compute_absolute {node : NodeProps α} {flows : Bool} {parent : Affine α}
    {flow : Option Flow} {layout : Layout α}
    (computed : compute node flows parent flow = .ok layout)
    (absolute : layout.position = .absolute) :
    ∃ own inverse, node.absoluteTransform = some own ∧ parent.invert = some inverse ∧
      ∃ place, Layout.place node inverse (inverse.compose own) = .ok place ∧
        layout.map = .ofParts place.transform place.left place.top := by
  rcases compute_pose computed with relative | ⟨own, inverse, known, inverted, place, placed, same⟩
  · exact absurd (absolute.symm.trans relative) (by decide)
  · exact ⟨own, inverse, known, inverted, place, placed, congrArg (·.2.2) same⟩

/-- The transform of an absolute layout leaves its top left corner in place. -/
theorem compute_origin {node : NodeProps α} {flows : Bool} {parent : Affine α}
    {flow : Option Flow} {layout : Layout α}
    (computed : compute node flows parent flow = .ok layout)
    (absolute : layout.position = .absolute) : layout.origin = .topLeft := by
  rcases compute_pose computed with relative | ⟨_, _, -, -, place, -, same⟩
  · exact absurd (absolute.symm.trans relative) (by decide)
  · exact congrArg (·.2.1) same

end Layout

/-- Outside the flow, the box of a mask is placed by its map. -/
theorem maskLayout_absolute [Scalar α] {mask : NodeProps α} {map : Affine α} {inFlow : Bool}
    (absolute : (maskLayout mask map inFlow).position = .absolute) :
    (maskLayout mask map inFlow).map = map := by
  cases inFlow with
  | false => rfl
  | true => cases absolute

/-- The transforms of absolute boxes leave their top left corners in place. -/
theorem origin_of_compiledAs [Scalar α] {template : String} {root : Affine α} {entry : Entry α}
    {box : SceneBox α} (compiled : CompiledAs template root entry box)
    (absolute : box.layout.position = .absolute) : box.layout.origin = .topLeft := by
  cases compiled with
  | node _ _ returned =>
    obtain ⟨-, layout, _, _, computed, -, -, rfl⟩ := compileBox_cases returned
    exact Layout.compute_origin computed absolute
  | @group place _ _ _ =>
    cases flow : place.flow.isSome with
    | false => simp [maskBox, maskLayout, Layout.plain]
    | true => simp [maskBox, maskLayout, flow] at absolute

/-! ### Frames along the walk -/

/-- What stands below an entry is placed in the frame of its node, or of its mask. -/
inductive EntryTree.Framed (root : Affine α) : EntryTree α → Prop
  | mk {entry below} :
      (∀ tree ∈ below, tree.entry.frame root = entry.node.props.absoluteTransform) →
      (∀ tree ∈ below, Framed root tree) → Framed root (.mk entry below)

open EntryTree

theorem framed_walkNode (root : Affine α) (node : Node α) :
    ∀ ancestors cover, Framed root (walkNode ancestors cover node) := by
  induction node using Node.memInduction with
  | step props children ih =>
    intro ancestors cover
    rw [walkNode]
    split
    case isFalse => exact .mk (by simp) (by simp)
    case isTrue =>
      have below : ∀ tree ∈ walkRun (.mk props children :: ancestors) none children ++
          walkGroups (.mk props children :: ancestors) children,
          tree.entry.frame root = props.absoluteTransform ∧ Framed root tree := by
        intro tree member
        rcases List.mem_append.mp member with run | grouped
        · obtain ⟨node, inside, -, -, rfl⟩ := walkRun_cases (List.Subset.refl _) run
          rw [entry_walkNode]
          exact ⟨rfl, ih node inside _ _⟩
        · obtain ⟨mask, -, -, below, -, rfl, covers⟩ :=
            walkGroups_cases (List.Subset.refl _) grouped
          -- A group has the frame of the container, and its members have that of the mask.
          refine ⟨rfl, .mk ?_ ?_⟩ <;> intro covered member <;>
            obtain ⟨node, inside, -, -, rfl⟩ := covers covered member
          · rw [entry_walkNode]
            rfl
          · exact ih node inside _ _
      exact .mk (fun tree member => (below tree member).1) fun tree member => (below tree member).2

/-! ### Absolute geometry -/

/-- The entry shows vector content, which its render bounds place. -/
def Entry.isVector (entry : Entry α) : Prop :=
  entry.isGroup = false ∧ NodeKind.ofNode entry.node.props = .svg

/-- In its frame an absolute box lies where its node does. Vector content with known bounds is
shifted to them where it cancels the frame. -/
structure LiesIn (frame : Affine Rat) (entry : Entry Rat) (box : SceneBox Rat) : Prop where
  geometry : box.layout.position = .absolute → ¬ entry.isVector →
    entry.node.props.absoluteTransform = some (frame.compose box.layout.map)
  vector : box.layout.position = .absolute → entry.isVector →
    ∀ bounds, entry.node.props.absoluteRenderBounds = some bounds →
      ∃ inverse, frame.invert = some inverse ∧
        (inverse.linear.isIdentity = false →
          frame.compose box.layout.map = .shift bounds.x bounds.y)

private theorem place_box {node : NodeProps Rat} {inverse map : Affine Rat} {place : Place Rat}
    (other : NodeKind.ofNode node ≠ .svg) (placed : Layout.place node inverse map = .ok place) :
    Affine.ofParts place.transform place.left place.top = map := by
  rw [Layout.place, if_neg other] at placed
  obtain ⟨size, -, placed⟩ := Except.bind_eq_ok_iff.mp placed
  cases placed
  rfl

private theorem place_vector {node : NodeProps Rat} {inverse map : Affine Rat} {place : Place Rat}
    {bounds : Rect Rat} (vector : NodeKind.ofNode node = .svg)
    (known : node.absoluteRenderBounds = some bounds) (cancels : inverse.linear.isIdentity = false)
    (placed : Layout.place node inverse map = .ok place) :
    Affine.ofParts place.transform place.left place.top =
      .ofParts inverse.linear (inverse.apply bounds.x bounds.y).1
        (inverse.apply bounds.x bounds.y).2 := by
  rw [Layout.place, if_pos vector, Place.ofVector, known] at placed
  split at placed
  · contradiction
  · simp only [cancels] at placed
    cases placed
    rfl

/-- The box lies in the frame of its entry. -/
def LiesAt (root : Affine Rat) (entry : Entry Rat) (box : SceneBox Rat) : Prop :=
  ∃ frame, entry.frame root = some frame ∧ LiesIn frame entry box

theorem liesAt_of_compiledAs {template : String} {root : Affine Rat} {entry : Entry Rat}
    {box : SceneBox Rat} (compiled : CompiledAs template root entry box) :
    LiesAt root entry box := by
  cases compiled with
  | node alone placed returned =>
    obtain ⟨-, layout, _, _, computed, -, -, rfl⟩ := compileBox_cases returned
    refine ⟨_, placed.frame, fun absolute other => ?_, fun absolute vector bounds known => ?_⟩
    · obtain ⟨own, inverse, here, inverted, place, found, same⟩ :=
        Layout.compute_absolute computed absolute
      -- The place is the own map after the inverse of the frame, which the frame undoes.
      have undone : layout.map = inverse.compose own :=
        same.trans (place_box (fun svg => other ⟨alone, svg⟩) found)
      change _ = some (Affine.compose _ layout.map)
      rw [here, undone, Affine.compose_invert_compose inverted]
    · obtain ⟨own, inverse, -, inverted, place, found, same⟩ :=
        Layout.compute_absolute computed absolute
      refine ⟨inverse, inverted, fun cancels => ?_⟩
      change Affine.compose _ layout.map = _
      rw [same, place_vector vector.2 known cancels found,
        Affine.compose_ofParts_invert inverted]
  | group grouped placed inverted known styled =>
    refine ⟨_, placed.frame, fun absolute _ => ?_, fun _ vector => ?_⟩
    · rw [known, maskBox, maskLayout_absolute absolute, Affine.compose_invert_compose inverted]
    · exact absurd (grouped.symm.trans vector.1) (by decide)

/-! ### Chains of absolute boxes -/

section Products

variable [Scalar α]

mutual

/-- The product of the places from the root frame down to each box, as long as the boxes are
absolute. -/
def SceneNode.products (above : Option (Affine α)) : SceneNode α → List (Option (Affine α))
  | .mk box children =>
    let product := if box.layout.position = .absolute then above.map (·.compose box.layout.map)
      else none
    product :: productsBelow product children

def SceneNode.productsBelow (above : Option (Affine α)) :
    List (SceneNode α) → List (Option (Affine α))
  | [] => []
  | node :: rest => node.products above ++ SceneNode.productsBelow above rest

end

end Products

/-- The product, where there is one, is the absolute map of the node, unless it is a vector. -/
def Reaches (entry : Entry Rat) (product : Option (Affine Rat)) : Prop :=
  ∀ map ∈ product, ¬ entry.isVector → entry.node.props.absoluteTransform = some map

private theorem reaches_productsBelow {trees : List (EntryTree Rat)} {drawn : List (SceneNode Rat)}
    {above : Option (Affine Rat)}
    (reached : List.Forall₂ (fun tree node =>
      List.Forall₂ Reaches (preorder tree) (node.products above)) trees drawn) :
    List.Forall₂ Reaches (preorders trees) (SceneNode.productsBelow above drawn) := by
  induction reached with
  | nil => exact .nil
  | cons first _ ih => exact List.rel_append first ih

/-- What has something below it is no vector. -/
private theorem not_isVector_of_below {entry : Entry α} {tree : EntryTree α}
    {below : List (EntryTree α)} (complete : Complete (.mk entry below)) (member : tree ∈ below) :
    ¬ entry.isVector := by
  intro vector
  cases complete with
  | leaf => simp at member
  | frame _ isFrame => exact absurd (isFrame.symm.trans vector.2) (by decide)
  | group grouped => exact absurd (grouped.symm.trans vector.1) (by decide)

/-- The products reach the nodes below an entry if what stands above it reaches its frame. -/
private theorem reaches_products {root : Affine Rat} (tree : EntryTree Rat) :
    ∀ {above drawn}, Framed root tree → Complete tree → Follows (LiesAt root) tree drawn →
      (∀ frame ∈ above, tree.entry.frame root = some frame) →
      List.Forall₂ Reaches (preorder tree) (drawn.products above) := by
  induction tree using EntryTree.memInduction with
  | step entry below ih =>
    intro above drawn framed complete follows reached
    cases follows with
    | @mk _ box _ drawn lies follows =>
      obtain ⟨frame, known, lies⟩ := lies
      rw [SceneNode.products]
      set product := if box.layout.position = .absolute then
        above.map (·.compose box.layout.map) else none with formed
      -- The product above reaches the frame, from which the box lies as its node does.
      have reaches : Reaches entry product := by
        intro map member other
        rw [formed] at member
        split at member
        case isFalse => cases member
        case isTrue absolute =>
          obtain ⟨frame', here, rfl⟩ := Option.map_eq_some_iff.mp member
          obtain rfl : frame' = frame :=
            Option.some.inj ((reached frame' here).symm.trans known)
          exact lies.geometry absolute other
      -- What has children is no vector, so the product reaches the frame of the children.
      refine .cons reaches (reaches_productsBelow (forall₂_imp_of_mem follows ?_))
      intro tree member drawn follows
      cases framed with
      | mk frames framed =>
        refine ih tree member (framed tree member) (complete.of_mem member) follows ?_
        intro map here
        exact (frames tree member).trans (reaches map here (not_isVector_of_below complete member))

/-- Every box stands in the frame of the box above it and lies there as its node lies absolutely,
and so do the products along absolute boxes. -/
structure KeepsGeometry (composition : Composition Rat) (scene : CompiledScene Rat) : Prop where
  framed : ∀ tree ∈ composition.walk,
    tree.entry.frame composition.rootFrame = some composition.rootFrame ∧
      Framed composition.rootFrame tree
  lies : List.Forall₂ (Follows (LiesAt composition.rootFrame)) composition.walk scene.nodes
  reaches : List.Forall₂ Reaches (preorders composition.walk)
    (SceneNode.productsBelow (some composition.rootFrame) scene.nodes)

/-- Relative places keep the absolute geometry of every composition that compiles. -/
theorem relative_places_keep_geometry {template : String} {provider : FontProvider}
    {composition : Composition Rat} {scene : CompiledScene Rat}
    (compiled : compileComposition template provider composition = .ok scene) :
    KeepsGeometry composition scene := by
  have top : ∀ tree ∈ composition.walk,
      tree.entry.frame composition.rootFrame = some composition.rootFrame ∧
        Framed composition.rootFrame tree ∧ Complete tree := by
    intro tree member
    obtain ⟨node, -, rfl⟩ := List.mem_map.mp member
    rw [entry_walkNode]
    exact ⟨rfl, framed_walkNode _ node [] none, complete_walkNode node [] none⟩
  have lies : List.Forall₂ (Follows (LiesAt composition.rootFrame)) composition.walk scene.nodes :=
    (follows_walk compiled).imp (Follows.mono fun _ _ => liesAt_of_compiledAs)
  refine ⟨fun tree member => ⟨(top tree member).1, (top tree member).2.1⟩, lies, ?_⟩
  refine reaches_productsBelow (forall₂_imp_of_mem lies fun tree member drawn follows => ?_)
  obtain ⟨framed, nested, complete⟩ := top tree member
  refine reaches_products tree nested complete follows ?_
  rintro _ ⟨⟩
  exact framed

theorem maskedSketch_keeps_geometry :
    ∃ scene, compileComposition "" (fun _ => none) maskedSketch = .ok scene ∧
      ((SceneNode.preorders scene.nodes).all (·.layout.position == .absolute)) = true ∧
      KeepsGeometry maskedSketch scene := by
  obtain ⟨scene, compiled, absolute⟩ := Except.exists_of_any
    (fun scene => (SceneNode.preorders scene.nodes).all (·.layout.position == .absolute))
    (show (compileComposition "" (fun _ => none) maskedSketch).toOption.any _ = true by
      decide +kernel)
  exact ⟨scene, compiled, absolute, relative_places_keep_geometry compiled⟩

end Artboard
