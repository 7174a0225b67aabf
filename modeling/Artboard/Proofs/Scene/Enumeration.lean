import Artboard.Proofs.Scene.Walk

/-!
# What a scene shows

The boxes of a compiled scene are those of the walk, in its order and with its
nesting. The walk shows each visible node that is no mask once and under its own
parent, and nothing of an invisible node, of a mask or of a node that is no frame.
-/
namespace Artboard

variable {α : Type}

mutual

/-- The nodes of a tree, each before those below it. -/
def Node.preorder : Node α → List (Node α)
  | .mk props children => .mk props children :: Node.preorders children

def Node.preorders : List (Node α) → List (Node α)
  | [] => []
  | node :: rest => node.preorder ++ Node.preorders rest

end

/-- The box shows the node of the entry, or the group that the node masks. -/
structure Shows (entry : Entry α) (box : SceneBox α) : Prop where
  id : box.id = entry.node.props.id
  type : box.type = entry.node.props.type
  kind : box.kind = if entry.isGroup then .frame else NodeKind.ofNode entry.node.props
  isMask : box.isMask = (entry.isGroup || entry.node.props.isMask)

/-- An entry is a visible node below visible frames, or the group of a mask. Below the top level
no mask is shown for itself, nor is anything inside one. -/
structure Entry.Lawful (entry : Entry α) : Prop where
  visible : entry.isGroup = false → entry.node.props.visible = true
  topLevel : entry.ancestors = [] → entry.isGroup = false
  mask : entry.ancestors ≠ [] → entry.node.props.isMask = entry.isGroup
  containers : ∀ container ∈ entry.ancestors,
    container.props.visible = true ∧ NodeKind.ofNode container.props = .frame
  unmasked : ∀ container ∈ entry.ancestors.dropLast, container.props.isMask = false
  inside : ∀ container ∈ entry.ancestors.head?, entry.node ∈ container.children ∧
    ∀ mask ∈ entry.cover, mask ∈ container.children ∧ mask.props.isMask = true

namespace EntryTree

def entry : EntryTree α → Entry α
  | mk entry _ => entry

def children : EntryTree α → List (EntryTree α)
  | mk _ below => below

/-- The nodes that trees show at their top, with those of a group in place of the group. -/
def shown (trees : List (EntryTree α)) : List (Node α) :=
  trees.flatMap fun tree =>
    if tree.entry.isGroup then tree.children.map (·.entry.node) else [tree.entry.node]

/-- Below a frame each visible child that is no mask is shown once, directly or in the group of a
mask. Groups are not empty, and nothing is shown below other nodes. -/
inductive Complete : EntryTree α → Prop
  | leaf {entry} :
      entry.isGroup = false → NodeKind.ofNode entry.node.props ≠ .frame → Complete (.mk entry [])
  | frame {entry below} :
      entry.isGroup = false → NodeKind.ofNode entry.node.props = .frame →
      shown below =
        entry.node.children.filter (fun child => child.props.visible && !child.props.isMask) →
      (∀ tree ∈ below, Complete tree) → Complete (.mk entry below)
  | group {entry below} :
      entry.isGroup = true → below ≠ [] →
      (∀ tree ∈ below, tree.entry.isGroup = false ∧ tree.entry.cover = some entry.node) →
      (∀ tree ∈ below, Complete tree) → Complete (.mk entry below)

theorem Complete.of_mem {entry : Entry α} {tree : EntryTree α} {below : List (EntryTree α)}
    (complete : Complete (.mk entry below)) (member : tree ∈ below) : Complete tree := by
  cases complete with
  | leaf => simp at member
  | frame _ _ _ rest => exact rest tree member
  | group _ _ _ rest => exact rest tree member

theorem mem_preorders_iff {entry : Entry α} {trees : List (EntryTree α)} :
    entry ∈ preorders trees ↔ ∃ tree ∈ trees, entry ∈ preorder tree := by
  induction trees with
  | nil => simp [preorders]
  | cons tree rest ih => simp [preorders, ih]

end EntryTree

open EntryTree

/-! ### The trees of the walk -/

theorem entry_walkNode (ancestors : List (Node α)) (cover : Option (Node α)) (node : Node α) :
    (walkNode ancestors cover node).entry = ⟨node, false, ancestors, cover⟩ := by
  cases node
  rw [walkNode, EntryTree.entry]

/-- A run shows visible siblings that are no masks. -/
theorem walkRun_cases {ancestors nodes siblings : List (Node α)} {cover : Option (Node α)}
    {tree : EntryTree α} (within : nodes ⊆ siblings)
    (member : tree ∈ walkRun ancestors cover nodes) :
    ∃ node ∈ siblings, node.props.visible = true ∧ node.props.isMask = false ∧
      tree = walkNode ancestors cover node := by
  induction nodes with
  | nil => simp [walkRun] at member
  | cons node rest ih =>
    obtain ⟨first, within⟩ := List.cons_subset.mp within
    rw [walkRun] at member
    split at member
    · simp at member
    next unmasked =>
      split at member
      next shown =>
        rcases List.mem_cons.mp member with rfl | member
        · exact ⟨node, first, shown, by simpa using unmasked, rfl⟩
        · exact ih within member
      next => exact ih within member

/-- Each group is that of a mask and shows visible siblings that are no masks. -/
theorem walkGroups_cases {ancestors nodes siblings : List (Node α)} {tree : EntryTree α}
    (within : nodes ⊆ siblings) (member : tree ∈ walkGroups ancestors nodes) :
    ∃ mask ∈ siblings, mask.props.isMask = true ∧ ∃ below, below ≠ [] ∧
      tree = .mk ⟨mask, true, ancestors, none⟩ below ∧
      ∀ covered ∈ below, ∃ node ∈ siblings, node.props.visible = true ∧
        node.props.isMask = false ∧ covered = walkNode ancestors (some mask) node := by
  induction nodes with
  | nil => simp [walkGroups] at member
  | cons node rest ih =>
    obtain ⟨first, within⟩ := List.cons_subset.mp within
    rw [walkGroups] at member
    split at member
    next masks =>
      rcases List.mem_append.mp member with grouped | member
      · rw [maskGroup] at grouped
        split at grouped
        · simp at grouped
        next inhabited =>
          obtain rfl := List.mem_singleton.mp grouped
          exact ⟨node, first, masks, _, by simpa using inhabited, rfl,
            fun covered member => walkRun_cases within member⟩
      · exact ih within member
    next => exact ih within member

/-! ### The laws of the walk -/

/-- A lawful frame makes lawful entries of its visible children that are no masks, wherever they
are shown. -/
private theorem Entry.Lawful.child {props : NodeProps α} {children ancestors : List (Node α)}
    {cover : Option (Node α)} (lawful : Entry.Lawful ⟨.mk props children, false, ancestors, cover⟩)
    (isFrame : NodeKind.ofNode props = .frame) {node : Node α} {isGroup : Bool}
    {mask : Option (Node α)} (inside : node ∈ children)
    (visible : isGroup = false → node.props.visible = true) (masks : node.props.isMask = isGroup)
    (covered : ∀ cover ∈ mask, cover ∈ children ∧ cover.props.isMask = true) :
    Entry.Lawful ⟨node, isGroup, .mk props children :: ancestors, mask⟩ where
  visible := visible
  topLevel := by simp
  mask := fun _ => masks
  containers := by
    intro container member
    rcases List.mem_cons.mp member with rfl | member
    · exact ⟨lawful.visible rfl, isFrame⟩
    · exact lawful.containers container member
  unmasked := by
    intro container member
    cases ancestors with
    | nil => simp at member
    | cons outer rest =>
      rcases List.mem_cons.mp member with rfl | member
      · exact lawful.mask (by simp)
      · exact lawful.unmasked container member
  inside := by
    rintro container ⟨⟩
    exact ⟨inside, covered⟩

/-- Every entry of the walk of a lawful entry is lawful. -/
theorem lawful_walkNode (node : Node α) :
    ∀ {ancestors cover}, Entry.Lawful ⟨node, false, ancestors, cover⟩ →
      ∀ entry ∈ preorder (walkNode ancestors cover node), entry.Lawful := by
  induction node using Node.memInduction with
  | step props children ih =>
    intro ancestors cover lawful entry member
    rw [walkNode, preorder, List.mem_cons] at member
    rcases member with rfl | member
    · exact lawful
    split at member
    case isFalse => simp [preorders] at member
    case isTrue isFrame =>
      rw [preorders_append, List.mem_append, mem_preorders_iff, mem_preorders_iff] at member
      -- Below a frame stand the children of its first run, then the groups with their own entry.
      rcases member with ⟨tree, run, member⟩ | ⟨tree, grouped, member⟩
      · obtain ⟨node, inside, visible, unmasked, rfl⟩ := walkRun_cases (List.Subset.refl _) run
        exact ih node inside
          (lawful.child isFrame inside (fun _ => visible) unmasked (by simp)) entry member
      · obtain ⟨mask, inside, masks, below, -, rfl, covers⟩ :=
          walkGroups_cases (List.Subset.refl _) grouped
        rw [preorder, List.mem_cons, mem_preorders_iff] at member
        rcases member with rfl | ⟨covered, member, below⟩
        · exact lawful.child isFrame inside (by simp) masks (by simp)
        · obtain ⟨node, inside', visible, unmasked, rfl⟩ := covers covered member
          refine ih node inside' (lawful.child isFrame inside' (fun _ => visible) unmasked ?_)
            entry below
          rintro cover ⟨⟩
          exact ⟨inside, masks⟩

/-- Where the walks of nodes keep the order of their trees, so does what is walked of a list. -/
private theorem walked_sublist {nodes : List (Node α)}
    (walks : ∀ node ∈ nodes, ∀ ancestors cover,
      ((preorder (walkNode ancestors cover node)).map (·.node)).Sublist node.preorder)
    (ancestors : List (Node α)) (cover : Option (Node α)) :
    ((preorders (walkRun ancestors cover nodes ++ walkGroups ancestors nodes)).map
      (·.node)).Sublist (Node.preorders nodes) := by
  induction nodes generalizing cover with
  | nil => simp [walkRun, walkGroups, preorders, Node.preorders]
  | cons node rest ih =>
    obtain ⟨first, walks⟩ := List.forall_mem_cons.mp walks
    -- A node that is not shown is skipped with everything below it.
    have skipped := (ih walks cover).trans (List.sublist_append_right node.preorder _)
    rw [walkRun, walkGroups, Node.preorders]
    cases masks : node.props.isMask with
    | false =>
      cases shown : node.props.visible with
      | false => simpa using skipped
      | true =>
        simpa [preorders, preorders_append] using (first ancestors cover).append (ih walks cover)
    | true =>
      -- The run after a mask is walked under its cover, and the mask comes in front as a group.
      have inner := ih walks (some node)
      have alone : [node].Sublist node.preorder := by
        cases node
        simp [Node.preorder]
      rw [if_pos rfl, if_pos rfl, List.nil_append, maskGroup]
      split
      next blank =>
        rw [List.isEmpty_iff.mp blank] at inner
        exact inner.trans (List.sublist_append_right _ _)
      next => simpa [preorders, preorder, preorders_append] using alone.append inner

/-- The nodes of a walk occur in the tree in the same order, each at most as often. -/
theorem walkNode_sublist (node : Node α) :
    ∀ ancestors cover,
      ((preorder (walkNode ancestors cover node)).map (·.node)).Sublist node.preorder := by
  induction node using Node.memInduction with
  | step props children ih =>
    intro ancestors cover
    rw [walkNode, preorder, Node.preorder, List.map_cons]
    refine List.Sublist.cons_cons _ ?_
    split
    · exact walked_sublist ih _ none
    · simp [preorders]

private theorem shown_walkRun (ancestors : List (Node α)) (cover : Option (Node α))
    (nodes : List (Node α)) :
    shown (walkRun ancestors cover nodes) = (walkRun ancestors cover nodes).map (·.entry.node) := by
  have alone : ∀ tree ∈ walkRun ancestors cover nodes, tree.entry.isGroup = false := by
    intro tree member
    obtain ⟨node, -, -, -, rfl⟩ := walkRun_cases (List.Subset.refl _) member
    simp [entry_walkNode]
  generalize walkRun ancestors cover nodes = trees at alone ⊢
  induction trees with
  | nil => rfl
  | cons tree rest ih =>
    -- No tree of a run is a group, so each shows its own node.
    obtain ⟨first, alone⟩ := List.forall_mem_cons.mp alone
    have rest := ih alone
    simp only [shown] at rest
    simp [shown, first, rest]

/-- What a frame shows at its top are its visible children that are no masks. -/
theorem shown_walk (ancestors : List (Node α)) (cover : Option (Node α)) (nodes : List (Node α)) :
    shown (walkRun ancestors cover nodes ++ walkGroups ancestors nodes) =
      nodes.filter fun node => node.props.visible && !node.props.isMask := by
  induction nodes generalizing cover with
  | nil => rfl
  | cons node rest ih =>
    have append (trees others : List (EntryTree α)) :
        shown (trees ++ others) = shown trees ++ shown others := List.flatMap_append
    rw [walkRun, walkGroups]
    cases masks : node.props.isMask with
    | false =>
      cases visible : node.props.visible <;>
        simp [masks, visible, ← ih cover, shown, entry_walkNode]
    | true =>
      -- The cover of a run does not change which nodes it shows.
      have inner := ih (some node)
      rw [append, shown_walkRun] at inner
      rw [if_pos rfl, if_pos rfl, List.nil_append, maskGroup, append]
      split
      next blank => simpa [masks, List.isEmpty_iff.mp blank, shown] using inner
      next => simpa [masks, shown, EntryTree.entry, EntryTree.children] using inner

/-- The walk of a node is complete. -/
theorem complete_walkNode (node : Node α) :
    ∀ ancestors cover, Complete (walkNode ancestors cover node) := by
  induction node using Node.memInduction with
  | step props children ih =>
    intro ancestors cover
    rw [walkNode]
    split
    next isFrame =>
      refine .frame rfl isFrame (shown_walk _ none children) fun tree member => ?_
      rcases List.mem_append.mp member with run | grouped
      · obtain ⟨node, inside, -, -, rfl⟩ := walkRun_cases (List.Subset.refl _) run
        exact ih node inside _ _
      · obtain ⟨mask, -, -, below, inhabited, rfl, covers⟩ :=
          walkGroups_cases (List.Subset.refl _) grouped
        refine .group rfl inhabited ?_ ?_ <;> intro covered member <;>
          obtain ⟨node, inside, -, -, rfl⟩ := covers covered member
        · simp [entry_walkNode]
        · exact ih node inside _ _
    next other => exact .leaf rfl other

theorem lawful_walk (composition : Composition α) :
    ∀ entry ∈ preorders composition.walk, entry.Lawful := by
  intro entry member
  obtain ⟨tree, member, inside⟩ := mem_preorders_iff.mp member
  obtain ⟨node, visible, rfl⟩ := List.mem_map.mp member
  refine lawful_walkNode node ⟨?_, ?_, ?_, ?_, ?_, ?_⟩ entry inside <;>
    simp_all

private theorem topLevel_sublist (nodes : List (Node α)) :
    ((preorders ((nodes.filter (·.props.visible)).map (walkNode [] none))).map
      (·.node)).Sublist (Node.preorders nodes) := by
  induction nodes with
  | nil => simp [preorders, Node.preorders]
  | cons node rest ih =>
    cases visible : node.props.visible with
    | false => simpa [visible, Node.preorders] using ih.trans (List.sublist_append_right _ _)
    | true =>
      simpa [visible, preorders, Node.preorders] using (walkNode_sublist node [] none).append ih

private theorem ids_of_shows {entries : List (Entry α)} {boxes : List (SceneBox α)}
    (shows : List.Forall₂ Shows entries boxes) :
    boxes.map (·.id) = entries.map (·.node.props.id) := by
  induction shows with
  | nil => rfl
  | cons first _ ih => simp [first.id, ih]

/-! ### Compiled scenes -/

section Compiled

variable [Scalar α] {template : String} {provider : FontProvider} {composition : Composition α}
  {scene : CompiledScene α}

theorem shows_of_compiledAs {root : Affine α} {entry : Entry α} {box : SceneBox α}
    (compiled : CompiledAs template root entry box) : Shows entry box := by
  cases compiled with
  | node alone _ returned =>
    obtain ⟨-, _, _, _, -, -, -, rfl⟩ := compileBox_cases returned
    exact ⟨rfl, rfl, by simp [alone, nodeBox], by simp [alone, nodeBox]⟩
  | group grouped => exact ⟨rfl, rfl, by simp [grouped, maskBox], by simp [grouped, maskBox]⟩

/-- The scene shows the walk of the composition box by box, in its order and with its nesting.
The walk is lawful and complete, and goes through the nodes of the composition in their order
without repeating one. -/
structure ShowsWalk (composition : Composition α) (scene : CompiledScene α) : Prop where
  follows : List.Forall₂ (Follows Shows) composition.walk scene.nodes
  preorder : List.Forall₂ Shows (preorders composition.walk) (SceneNode.preorders scene.nodes)
  ids : (SceneNode.preorders scene.nodes).map (·.id) =
    (preorders composition.walk).map (·.node.props.id)
  once : ((preorders composition.walk).map (·.node)).Sublist (Node.preorders composition.children)
  lawful : ∀ entry ∈ preorders composition.walk, entry.Lawful
  complete : ∀ tree ∈ composition.walk, Complete tree

/-- Every composition that compiles is shown node by node. -/
theorem compiled_scene_shows_walk
    (compiled : compileComposition template provider composition = .ok scene) :
    ShowsWalk composition scene := by
  have follows : List.Forall₂ (Follows Shows) composition.walk scene.nodes :=
    (follows_walk compiled).imp (Follows.mono fun _ _ => shows_of_compiledAs)
  have preorder := forall₂_preorders follows
  refine ⟨follows, preorder, ids_of_shows preorder, topLevel_sublist _, lawful_walk composition, ?_⟩
  intro tree member
  obtain ⟨node, -, rfl⟩ := List.mem_map.mp member
  exact complete_walkNode node [] none

end Compiled

/-- A node without style, ten by twenty. -/
def plainProps (id type : String) (map : Affine Rat) : NodeProps Rat where
  id := id
  name := id
  type := type
  visible := true
  width := some (.number 10)
  height := some (.number 20)
  absoluteTransform := some map
  renderBounds := some ⟨0, 0, 10, 20⟩
  absoluteRenderBounds := none
  style :=
    { fills := [], strokes := [], strokeWeights := none, strokeAlign := .inside, dashPattern := []
      effects := [], opacity := 1, blendMode := none, radii := none }
  layoutMode := .none
  wraps := false
  itemSpacing := 0
  counterAxisSpacing := 0
  itemReverseZIndex := false
  primaryAxisAlignItems := .min
  counterAxisAlignItems := .min
  primaryAxisHugs := false
  counterAxisHugs := false
  padding := ⟨0, 0, 0, 0⟩
  strokesIncludedInLayout := false
  clipsContent := false
  absolutelyPositioned := false
  layoutGrow := 0
  layoutAlign := .inherit
  text := none
  svgId := none
  svgContent := none
  isMask := false
  maskType := none

/-- A turned frame with a node on its own, vector content, a hidden mask that covers one node,
and a mask that covers nothing visible. -/
def maskedSketch : Composition Rat where
  name := "sketch"
  absOrigin := some ⟨1, 2⟩
  bounds := none
  children :=
    [.mk (plainProps "frame" "FRAME" ⟨0, 1, -1, 0, 30, 40⟩)
      [.mk (plainProps "alone" "RECTANGLE" ⟨1, 0, 0, 1, 5, 6⟩) [],
       .mk { plainProps "drawing" "VECTOR" ⟨1, 0, 0, 1, 3, 4⟩ with
             svgContent := some "<svg/>", absoluteRenderBounds := some ⟨3, 4, 10, 20⟩ } [],
       .mk { plainProps "mask" "FRAME" ⟨2, 1, 0, 1, 7, 8⟩ with isMask := true, visible := false }
         [.mk (plainProps "inside" "RECTANGLE" ⟨1, 0, 0, 1, 5, 6⟩) []],
       .mk (plainProps "covered" "RECTANGLE" ⟨1, 0, 0, 1, 9, 9⟩) [],
       .mk { plainProps "idle" "FRAME" ⟨1, 0, 0, 1, 0, 0⟩ with isMask := true } [],
       .mk { plainProps "hidden" "FRAME" ⟨1, 0, 0, 1, 0, 0⟩ with visible := false } []]]

theorem maskedSketch_shows_walk :
    ∃ scene, compileComposition "" (fun _ => none) maskedSketch = .ok scene ∧
      (SceneNode.preorders scene.nodes).map (·.id) =
        ["frame", "alone", "drawing", "mask", "covered"] ∧
      ShowsWalk maskedSketch scene := by
  obtain ⟨scene, compiled, -⟩ := Except.exists_of_any (fun _ => true)
    (show (compileComposition "" (fun _ => none) maskedSketch).toOption.any _ = true by
      decide +kernel)
  have shows := compiled_scene_shows_walk compiled
  exact ⟨scene, compiled, shows.ids, shows⟩

end Artboard
