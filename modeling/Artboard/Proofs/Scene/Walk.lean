import Artboard.Proofs.Scene.Compilation

/-!
# The walk of a composition

The walk enumerates what a composition shows, read off the nodes alone: the
visible top-level nodes and, below a frame, the visible children before the first
mask, then each mask with the visible siblings up to the next one. A compiled
scene follows the walk node by node.
-/
namespace Artboard

variable {α : Type}

/-- A place in the walk. A group stands for the siblings that its mask covers. -/
structure Entry (α : Type) where
  node : Node α
  isGroup : Bool
  /-- The nodes above, nearest first. -/
  ancestors : List (Node α)
  /-- The mask in whose group the node stands. -/
  cover : Option (Node α)

inductive EntryTree (α : Type) where
  | mk (entry : Entry α) (below : List (EntryTree α))

namespace EntryTree

mutual

/-- The entries of a tree, each before those below it. -/
def preorder : EntryTree α → List (Entry α)
  | mk entry below => entry :: preorders below

def preorders : List (EntryTree α) → List (Entry α)
  | [] => []
  | tree :: rest => preorder tree ++ preorders rest

end

theorem preorders_append (trees others : List (EntryTree α)) :
    preorders (trees ++ others) = preorders trees ++ preorders others := by
  induction trees with
  | nil => rfl
  | cons tree rest ih => simp [preorders, ih]

end EntryTree

/-- The group of a mask, which is left out where it covers nothing visible. -/
def maskGroup (ancestors : List (Node α)) (mask : Node α) (below : List (EntryTree α)) :
    List (EntryTree α) :=
  if below.isEmpty then [] else [.mk ⟨mask, true, ancestors, none⟩ below]

mutual

/-- The walk of a node: only a frame shows its children. -/
def walkNode (ancestors : List (Node α)) (cover : Option (Node α)) : Node α → EntryTree α
  | .mk props children =>
    .mk ⟨.mk props children, false, ancestors, cover⟩
      (if NodeKind.ofNode props = .frame then
        walkRun (.mk props children :: ancestors) none children ++
          walkGroups (.mk props children :: ancestors) children
      else [])

/-- The visible nodes before the first mask. -/
def walkRun (ancestors : List (Node α)) (cover : Option (Node α)) :
    List (Node α) → List (EntryTree α)
  | [] => []
  | node :: rest =>
    if node.props.isMask then []
    else if node.props.visible then walkNode ancestors cover node :: walkRun ancestors cover rest
    else walkRun ancestors cover rest

/-- Each mask with the visible nodes between it and the next one. -/
def walkGroups (ancestors : List (Node α)) : List (Node α) → List (EntryTree α)
  | [] => []
  | node :: rest =>
    if node.props.isMask then
      maskGroup ancestors node (walkRun ancestors (some node) rest) ++ walkGroups ancestors rest
    else walkGroups ancestors rest

end

/-- The walk of a composition. At the top a mask is a node like any other. -/
def Composition.walk (composition : Composition α) : List (EntryTree α) :=
  (composition.children.filter (·.props.visible)).map (walkNode [] none)

/-! ### Trees that follow each other -/

/-- The scene has the shape of the tree, and each box is related to its entry. -/
inductive Follows (R : Entry α → SceneBox α → Prop) : EntryTree α → SceneNode α → Prop
  | mk {entry box below drawn} :
      R entry box → List.Forall₂ (Follows R) below drawn →
      Follows R (.mk entry below) (.mk box drawn)

theorem EntryTree.memInduction {P : EntryTree α → Prop}
    (step : ∀ entry below, (∀ tree ∈ below, P tree) → P (.mk entry below)) :
    ∀ tree, P tree := fun tree =>
  EntryTree.rec (motive_1 := P) (motive_2 := fun trees => ∀ tree ∈ trees, P tree)
    step (by simp) (fun _ _ first rest => by simpa using ⟨first, rest⟩) tree

/-- Lists are related item by item where the items of the first allow it. -/
theorem forall₂_imp_of_mem {β γ : Type} {R S : β → γ → Prop} {items : List β} {results : List γ}
    (related : List.Forall₂ R items results)
    (imp : ∀ item ∈ items, ∀ result, R item result → S item result) :
    List.Forall₂ S items results := by
  induction related with
  | nil => exact .nil
  | cons first _ ih =>
    exact .cons (imp _ (.head _) _ first) (ih fun item member => imp item (.tail _ member))

theorem Follows.mono {R S : Entry α → SceneBox α → Prop}
    (imp : ∀ entry box, R entry box → S entry box) (tree : EntryTree α) :
    ∀ drawn, Follows R tree drawn → Follows S tree drawn := by
  induction tree using EntryTree.memInduction with
  | step entry below ih =>
    intro drawn follows
    cases follows with
    | mk related rest =>
      exact .mk (imp _ _ related) (forall₂_imp_of_mem rest ih)

private theorem follows_preorder {R : Entry α → SceneBox α → Prop} (tree : EntryTree α) :
    ∀ drawn, Follows R tree drawn →
      List.Forall₂ R (EntryTree.preorder tree) (SceneNode.preorder drawn) := by
  induction tree using EntryTree.memInduction with
  | step entry below ih =>
    intro drawn follows
    cases follows with
    | mk related rest =>
      refine .cons related ?_
      -- By induction each subtree has a related preorder; these are appended in order.
      replace rest := forall₂_imp_of_mem rest ih
      clear ih related
      induction rest with
      | nil => exact .nil
      | cons first _ ih => exact List.rel_append first ih

/-- Trees that follow each other have related preorders. -/
theorem forall₂_preorders {R : Entry α → SceneBox α → Prop} {trees : List (EntryTree α)}
    {drawn : List (SceneNode α)} (follows : List.Forall₂ (Follows R) trees drawn) :
    List.Forall₂ R (EntryTree.preorders trees) (SceneNode.preorders drawn) := by
  induction follows with
  | nil => exact .nil
  | cons first _ ih => exact List.rel_append (follows_preorder _ _ first) ih

/-! ### Where an entry stands -/

namespace Entry

variable [Scalar α]

/-- The frame of an entry: that of the mask that covers it, else that of the node above. -/
def frame (root : Affine α) (entry : Entry α) : Option (Affine α) :=
  match entry.cover, entry.ancestors with
  | some mask, _ => mask.props.absoluteTransform
  | none, container :: _ => container.props.absoluteTransform
  | none, [] => some root

/-- The flow in which an entry takes part. -/
def flow (entry : Entry α) : Option Flow :=
  match entry.cover, entry.ancestors with
  | none, container :: _ =>
    if entry.node.props.absolutelyPositioned then none else flowOf container.props
  | _, _ => none

end Entry

/-- The shadows that the nodes above hand down, of which the nearest comes first. -/
def shadowsFrom [Scalar α] : List (Node α) → Except Fault (List (Shadow α))
  | [] => .ok []
  | container :: outer => do passedShadows container.props (← shadowsFrom outer)

namespace StackItem

variable {γ : Type}

/-- The child or the mask that the item is about. -/
def owner : StackItem γ → γ
  | single child _ => child
  | masked mask _ _ => mask

def css : StackItem γ → Css.Declarations
  | single _ css => css
  | masked _ _ css => css

def group : StackItem γ → StackGroup γ
  | single child _ => .single child
  | masked mask covered _ => .masked mask covered

end StackItem

section Compiled

variable [Scalar α] (template : String) (root : Affine α)

/-- The declarations that an entry has as an item of the node above. -/
def Entry.Carries (entry : Entry α) (css : Css.Declarations) : Prop :=
  match entry.cover, entry.ancestors with
  | none, container :: _ =>
    ∃ item ∈ itemsOf container.props container.children,
      item.owner = entry.node ∧ item.css = css
  | _, _ => css = ∅

/-- The surroundings are those that the nodes above and the mask of an entry make. -/
structure Entry.PlacedIn (entry : Entry α) (place : Surroundings α) : Prop where
  frame : entry.frame root = some place.frame
  inherited : shadowsFrom entry.ancestors = .ok place.inherited
  flow : place.flow = entry.flow
  itemCss : entry.Carries place.itemCss

/-- The box is what the entry is compiled to at its place. -/
inductive CompiledAs (entry : Entry α) : SceneBox α → Prop
  | node {place box} :
      entry.isGroup = false → entry.PlacedIn root place →
      Compile.Returns
        (compileBox template entry.node.props (hasFlowChildren entry.node.children) place) box →
      CompiledAs entry box
  | group {place inverse absolute css} :
      entry.isGroup = true → entry.PlacedIn root place →
      place.frame.invert = some inverse →
      entry.node.props.absoluteTransform = some absolute →
      maskBoxCss template entry.node.props place.itemCss = .ok css →
      CompiledAs entry
        (maskBox entry.node.props (inverse.compose absolute) place.flow.isSome css)

end Compiled

/-! ### Items and the walk -/

/-- The walk of what shares a place in the stacking order. -/
def walkGroup (ancestors : List (Node α)) : StackGroup (Node α) → EntryTree α
  | .single child => walkNode ancestors none child
  | .masked mask covered =>
    .mk ⟨mask, true, ancestors, none⟩
      ((covered.filter (·.props.visible)).map (walkNode ancestors (some mask)))

private theorem walkRun_eq (ancestors : List (Node α)) (cover : Option (Node α))
    (nodes : List (Node α)) :
    walkRun ancestors cover nodes =
      ((splitAtMasks Node.view.isMask nodes).1.filter (·.props.visible)).map
        (walkNode ancestors cover) := by
  induction nodes with
  | nil => rfl
  | cons node rest ih =>
    cases masks : node.props.isMask with
    | true => simp [walkRun, splitAtMasks, Node.view, masks]
    | false =>
      simp only [Node.view] at ih
      cases shown : node.props.visible <;>
        simp [walkRun, splitAtMasks, Node.view, masks, shown, ih]

private theorem walkGroups_eq (ancestors : List (Node α)) (nodes : List (Node α)) :
    walkGroups ancestors nodes =
      ((splitAtMasks Node.view.isMask nodes).2.filter
        fun entry => entry.2.any (·.props.visible)).map
          fun entry => walkGroup ancestors (.masked entry.1 entry.2) := by
  induction nodes with
  | nil => rfl
  | cons node rest ih =>
    simp only [Node.view] at ih
    cases masks : node.props.isMask with
    | false => simp [walkGroups, splitAtMasks, Node.view, masks, ih]
    | true =>
      -- The group is left out exactly where the run after the mask shows nothing.
      simp only [walkGroups, masks, if_true, walkRun_eq, ih, splitAtMasks, Node.view, maskGroup]
      cases shown : (splitAtMasks (fun node : Node α => node.props.isMask) rest).1.any
          (·.props.visible) with
      | true =>
        have inhabited : ((splitAtMasks (fun node : Node α => node.props.isMask) rest).1.filter
            (·.props.visible)) ≠ [] := by
          simpa [List.filter_eq_nil_iff] using shown
        simp [shown, inhabited, walkGroup]
      | false =>
        have blank : ((splitAtMasks (fun node : Node α => node.props.isMask) rest).1.filter
            (·.props.visible)) = [] := by
          simpa [List.filter_eq_nil_iff] using shown
        simp [shown, blank]

theorem walkRun_append_walkGroups (ancestors nodes : List (Node α)) :
    walkRun ancestors none nodes ++ walkGroups ancestors nodes =
      (stackGroups Node.view nodes).map (walkGroup ancestors) := by
  rw [walkRun_eq, walkGroups_eq]
  simp [stackGroups, Node.view, walkGroup, Function.comp_def]

theorem itemsFrom_group {γ : Type} [Scalar α] (style : StackStyle α)
    (total index position : Nat) (groups : List (StackGroup γ)) :
    (style.itemsFrom total index position groups).map StackItem.group = groups := by
  induction groups generalizing index position with
  | nil => rfl
  | cons group rest ih => cases group <;> simp [StackStyle.itemsFrom, StackItem.group, ih]

/-- The walk below a container visits its items in order. -/
theorem walk_items [Scalar α] (container : NodeProps α) (ancestors nodes : List (Node α)) :
    walkRun ancestors none nodes ++ walkGroups ancestors nodes =
      (itemsOf container nodes).map fun item => walkGroup ancestors item.group := by
  rw [walkRun_append_walkGroups]
  -- Items add declarations to the groups, which the walk does not look at.
  conv_lhs => rw [← itemsFrom_group (.ofNode container) (stackGroups Node.view nodes).length 0 0
    (stackGroups Node.view nodes)]
  rw [List.map_map]
  rfl

/-- Splitting at masks neither drops a child nor moves one. -/
theorem splitAtMasks_flatten {γ : Type} (isMask : γ → Bool) (children : List γ) :
    (splitAtMasks isMask children).1 ++
      (splitAtMasks isMask children).2.flatMap (fun entry => entry.1 :: entry.2) = children := by
  induction children with
  | nil => rfl
  | cons child rest ih =>
    cases masks : isMask child <;> simp [splitAtMasks, masks, ih]

/-- The children that share a place. -/
def StackGroup.members {γ : Type} : StackGroup γ → List γ
  | .single child => [child]
  | .masked mask covered => mask :: covered

theorem mem_of_mem_stackGroups {γ : Type} {view : ChildView γ} {children : List γ}
    {group : StackGroup γ} (member : group ∈ stackGroups view children) {child : γ}
    (inside : child ∈ group.members) : child ∈ children := by
  rw [← splitAtMasks_flatten view.isMask children]
  simp only [stackGroups, List.mem_append, List.mem_map, List.mem_filter] at member
  rcases member with ⟨single, ⟨run, -⟩, rfl⟩ | ⟨entry, ⟨masked, -⟩, rfl⟩
  · obtain rfl : child = single := by simpa [StackGroup.members] using inside
    exact List.mem_append_left _ run
  · exact List.mem_append_right _ (List.mem_flatMap.mpr ⟨entry, masked, inside⟩)

theorem mem_of_mem_itemsOf [Scalar α] {container : NodeProps α} {children : List (Node α)}
    {item : StackItem (Node α)} (member : item ∈ itemsOf container children) {child : Node α}
    (inside : child ∈ item.group.members) : child ∈ children := by
  -- An item has the members of its group, and the groups are parts of the children.
  have grouped := List.mem_map_of_mem (f := StackItem.group) member
  rw [itemsOf, stackItems, itemsFrom_group] at grouped
  exact mem_of_mem_stackGroups grouped inside

/-! ### Compilation follows the walk -/

section Compiled

variable [Scalar α] {template : String} {root : Affine α}

/-- A container hands down its frame, the shadows that it passes on and its flow. -/
theorem ContainerState.ofNode_cases {container : NodeProps α} {inherited : List (Shadow α)}
    {state : ContainerState α} (entered : ContainerState.ofNode container inherited = .ok state) :
    container.absoluteTransform = some state.frame ∧ state.frame.invert = some state.inverse ∧
      passedShadows container inherited = .ok state.inherited ∧ state.flow = flowOf container := by
  unfold ContainerState.ofNode at entered
  split at entered
  · contradiction
  next frame known =>
    split at entered
    · contradiction
    next inverse inverted =>
      cases passed : passedShadows container inherited with
      | error fault => rw [passed] at entered; contradiction
      | ok shadows =>
        rw [passed] at entered
        cases entered
        exact ⟨known, inverted, rfl, rfl⟩

private theorem shadowsFrom_cons {container : Node α} {outer : List (Node α)}
    {inherited passed : List (Shadow α)} (above : shadowsFrom outer = .ok inherited)
    (passes : passedShadows container.props inherited = .ok passed) :
    shadowsFrom (container :: outer) = .ok passed := by
  simp only [shadowsFrom, above]
  exact passes

private theorem placedIn_place (container : Node α) {outer : List (Node α)}
    {inherited : List (Shadow α)} {state : ContainerState α} {item : StackItem (Node α)}
    {isGroup : Bool} (above : shadowsFrom outer = .ok inherited)
    (entered : ContainerState.ofNode container.props inherited = .ok state)
    (member : item ∈ itemsOf container.props container.children) :
    Entry.PlacedIn root ⟨item.owner, isGroup, container :: outer, none⟩
      (state.place item.owner.props item.css) := by
  obtain ⟨known, -, passes, flows⟩ := ContainerState.ofNode_cases entered
  refine ⟨known, shadowsFrom_cons above passes, ?_, item, member, rfl, rfl⟩
  simp [ContainerState.place, ContainerState.flowFor, Entry.flow, flows]

private theorem placedIn_placeCovered (container : Node α) {mask node : Node α}
    {outer : List (Node α)} {inherited : List (Shadow α)} {state : ContainerState α}
    {absolute : Affine α}
    (above : shadowsFrom outer = .ok inherited)
    (entered : ContainerState.ofNode container.props inherited = .ok state)
    (known : mask.props.absoluteTransform = some absolute) :
    Entry.PlacedIn root ⟨node, false, container :: outer, some mask⟩
      (state.placeCovered absolute) := by
  obtain ⟨-, -, passes, -⟩ := ContainerState.ofNode_cases entered
  exact ⟨known, shadowsFrom_cons above passes, rfl, rfl⟩

/-- What a node is compiled to follows its walk. -/
theorem follows_walkNode (node : Node α) :
    ∀ {ancestors cover place drawn},
      Entry.PlacedIn root ⟨node, false, ancestors, cover⟩ place →
      Compile.Returns (compileNode template node place) drawn →
      Follows (CompiledAs template root) (walkNode ancestors cover node) drawn := by
  induction node using Node.memInduction with
  | step props children ih =>
    intro ancestors cover place drawn placed returned
    obtain ⟨box, below, rfl, boxed, compiled⟩ := compileNode_cases returned
    rw [walkNode]
    refine .mk (.node rfl placed boxed) ?_
    cases compiled with
    | leaf other => simp [other]
    | bare none => subst none; simp [walkRun, walkGroups]
    | items isFrame entered traversed =>
      rw [if_pos isFrame, walk_items props, List.forall₂_map_left_iff]
      -- The state of the frame holds for every item, so the items can be taken one by one.
      refine forall₂_imp_of_mem traversed fun item member drawn compiled => ?_
      have child : ∀ node ∈ item.group.members, node ∈ children :=
        fun _ => mem_of_mem_itemsOf member
      have placedItem : ∀ isGroup,
          Entry.PlacedIn root ⟨item.owner, isGroup, .mk props children :: ancestors, none⟩ _ :=
        fun _ => placedIn_place (.mk props children) placed.inherited entered member
      cases compiled with
      | single compiled => exact ih _ (child _ (.head _)) (placedItem false) compiled
      | masked known styled covered =>
        -- The group is placed as its mask is, and what it covers stands in the frame of the mask.
        refine .mk (.group rfl (placedItem true) (ContainerState.ofNode_cases entered).2.1 known
          styled) (List.forall₂_map_left_iff.mpr ?_)
        refine forall₂_imp_of_mem covered fun node member drawn compiled => ?_
        exact ih node (child _ (.tail _ (List.mem_of_mem_filter member)))
          (placedIn_placeCovered (.mk props children) placed.inherited entered known)
          compiled

/-- The frame in which the top-level nodes are placed. -/
def Composition.rootFrame (composition : Composition α) : Affine α :=
  match composition.absOrigin with
  | some origin => .shift origin.x origin.y
  | none => .identity

/-- A compiled scene follows the walk of its composition. -/
theorem follows_walk {provider : FontProvider} {composition : Composition α}
    {scene : CompiledScene α}
    (compiled : compileComposition template provider composition = .ok scene) :
    List.Forall₂ (Follows (CompiledAs template composition.rootFrame)) composition.walk
      scene.nodes := by
  rcases compileComposition_cases compiled with ⟨none, rfl⟩ | ⟨origin, known, run⟩
  · simp [Composition.walk, none, CompiledScene.blank]
  -- Nothing stands above the top-level nodes: they hand down no shadows and have no flow.
  · have traversed : Compile.Returns _ _ := ⟨_, _, run⟩
    rw [Composition.walk, List.forall₂_map_left_iff]
    refine traversed.mapM.imp fun node drawn compiled => ?_
    refine follows_walkNode node ?_ compiled
    exact ⟨by simp [Entry.frame, Composition.rootFrame, known], rfl, rfl, rfl⟩

end Compiled

end Artboard
