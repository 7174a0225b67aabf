import Artboard.Proofs.Scene.Walk
import Mathlib.Data.List.TakeWhile

/-!
# Masks among siblings

A mask covers the siblings between it and the next mask. The items of a container
are its visible children before the first mask, and each mask with what it covers
where some of that is visible.
-/
namespace Artboard

variable {α : Type}

/-- The mask is the last one before the sibling. -/
def Covers (siblings : List (Node α)) (mask node : Node α) : Prop :=
  ∃ before between after, siblings = before ++ mask :: (between ++ node :: after) ∧
    mask.props.isMask = true ∧ node.props.isMask = false ∧
    ∀ other ∈ between, other.props.isMask = false

section Siblings

theorem mem_takeWhile_iff {γ : Type} {holds : γ → Bool} {items : List γ} {item : γ} :
    item ∈ items.takeWhile holds ↔ ∃ before after, items = before ++ item :: after ∧
      holds item = true ∧ ∀ other ∈ before, holds other = true := by
  induction items with
  | nil => simp
  | cons first rest ih =>
    rw [List.takeWhile_cons]
    constructor
    · intro member
      split at member
      next here =>
        rcases List.mem_cons.mp member with rfl | member
        · exact ⟨[], rest, rfl, here, by simp⟩
        · obtain ⟨before, after, rfl, held, all⟩ := ih.mp member
          exact ⟨first :: before, after, rfl, held, by simpa [here] using all⟩
      · cases member
    · rintro ⟨before, after, same, held, all⟩
      cases before with
      | nil => cases same; simp [held]
      | cons other before =>
        cases same
        obtain ⟨here, all⟩ := List.forall_mem_cons.mp all
        rw [if_pos here]
        exact .tail _ (ih.mpr ⟨before, after, rfl, held, all⟩)

variable {γ : Type} (isMask : γ → Bool)

theorem splitAtMasks_fst (children : List γ) :
    (splitAtMasks isMask children).1 = children.takeWhile fun child => !isMask child := by
  induction children with
  | nil => rfl
  | cons child rest ih => cases masks : isMask child <;> simp [splitAtMasks, masks, ih]

/-- The masks of a list, each with what follows it up to the next one. -/
theorem mem_splitAtMasks_snd {children : List γ} {mask : γ} {run : List γ} :
    (mask, run) ∈ (splitAtMasks isMask children).2 ↔
      ∃ before rest, children = before ++ mask :: rest ∧ isMask mask = true ∧
        run = rest.takeWhile fun child => !isMask child := by
  induction children with
  | nil => simp [splitAtMasks]
  | cons child rest ih =>
    have later : (∃ before after, rest = before ++ mask :: after ∧ isMask mask = true ∧
        run = after.takeWhile fun child => !isMask child) →
        ∃ before after, child :: rest = before ++ mask :: after ∧ isMask mask = true ∧
          run = after.takeWhile fun child => !isMask child := by
      rintro ⟨before, after, rfl, masks, rfl⟩
      exact ⟨child :: before, after, rfl, masks, rfl⟩
    -- Without the first child the rest has the same runs, unless the child is a mask itself.
    cases masks : isMask child with
    | false =>
      simp only [splitAtMasks, masks, Bool.false_eq_true, if_false, ih]
      refine ⟨later, ?_⟩
      rintro ⟨before, after, same, isMasked, rfl⟩
      cases before with
      | nil => cases same; simp [masks] at isMasked
      | cons _ before => cases same; exact ⟨before, after, rfl, isMasked, rfl⟩
    | true =>
      simp only [splitAtMasks, masks, if_true, List.mem_cons, Prod.mk.injEq, ih,
        splitAtMasks_fst]
      constructor
      · rintro (⟨rfl, rfl⟩ | found)
        · exact ⟨[], rest, rfl, masks, rfl⟩
        · exact later found
      · rintro ⟨before, after, same, isMasked, rfl⟩
        cases before with
        | nil => cases same; exact .inl ⟨rfl, rfl⟩
        | cons _ before => cases same; exact .inr ⟨before, after, rfl, isMasked, rfl⟩

variable {isMask} {view : ChildView γ} {children : List γ}

/-- The children that no mask covers are groups of their own where they are visible. -/
theorem single_mem_stackGroups {child : γ} : .single child ∈ stackGroups view children ↔
    child ∈ (splitAtMasks view.isMask children).1 ∧ view.visible child = true := by
  simp [stackGroups]

theorem visible_of_single {child : γ} (member : .single child ∈ stackGroups view children) :
    view.visible child = true ∧ view.isMask child = false := by
  obtain ⟨run, visible⟩ := single_mem_stackGroups.mp member
  rw [splitAtMasks_fst] at run
  exact ⟨visible, by simpa using List.mem_takeWhile_imp run⟩

/-- A mask heads a group where it covers a visible child. -/
theorem masked_mem_stackGroups {mask : γ} {covered : List γ} :
    .masked mask covered ∈ stackGroups view children ↔
      (mask, covered) ∈ (splitAtMasks view.isMask children).2 ∧
        ∃ child ∈ covered, view.visible child = true := by
  simp [stackGroups]

end Siblings

private theorem covers_iff {children : List (Node α)} {mask node : Node α} :
    Covers children mask node ↔
      ∃ run, (mask, run) ∈ (splitAtMasks Node.view.isMask children).2 ∧ node ∈ run := by
  simp only [mem_splitAtMasks_snd, Covers]
  constructor
  · rintro ⟨before, between, after, rfl, masks, unmasked, clear⟩
    refine ⟨_, ⟨before, _, rfl, masks, rfl⟩, mem_takeWhile_iff.mpr ⟨between, after, rfl, ?_⟩⟩
    simpa [Node.view] using ⟨unmasked, clear⟩
  · rintro ⟨run, ⟨before, rest, rfl, masks, rfl⟩, member⟩
    obtain ⟨between, after, rfl, unmasked, clear⟩ := mem_takeWhile_iff.mp member
    exact ⟨before, between, after, rfl, masks, by simpa [Node.view] using unmasked,
      by simpa [Node.view] using clear⟩

section Items

variable [Scalar α] {container : NodeProps α} {children : List (Node α)}

variable (container) in
/-- The groups of a container are those of its items. -/
private theorem exists_item_iff {group : StackGroup (Node α)} :
    (∃ item ∈ itemsOf container children, item.group = group) ↔
      group ∈ stackGroups Node.view children := by
  rw [← List.mem_map, itemsOf, stackItems, itemsFrom_group]

/-- What an item covers stands after its mask, and some of it is visible. -/
theorem covers_of_item {mask : Node α} {covered : List (Node α)} {css : Css.Declarations}
    (member : .masked mask covered css ∈ itemsOf container children) :
    (∀ node ∈ covered, Covers children mask node) ∧
      ∃ node ∈ covered, node.props.visible = true := by
  obtain ⟨split, shows⟩ :=
    masked_mem_stackGroups.mp ((exists_item_iff container).mp ⟨_, member, rfl⟩)
  exact ⟨fun node inside => covers_iff.mpr ⟨covered, split, inside⟩, shows⟩

/-- A child that is an item of its own is visible and no mask. -/
theorem single_of_item {node : Node α} {css : Css.Declarations}
    (member : .single node css ∈ itemsOf container children) :
    node.props.visible = true ∧ node.props.isMask = false :=
  visible_of_single ((exists_item_iff container).mp ⟨_, member, rfl⟩)

variable (container) in
/-- A mask that covers a visible sibling heads an item with it. -/
theorem item_of_covers {mask node : Node α} (covers : Covers children mask node)
    (visible : node.props.visible = true) :
    ∃ covered css, .masked mask covered css ∈ itemsOf container children ∧ node ∈ covered := by
  obtain ⟨run, split, inside⟩ := covers_iff.mp covers
  have grouped : .masked mask run ∈ stackGroups Node.view children :=
    masked_mem_stackGroups.mpr ⟨split, node, inside, visible⟩
  obtain ⟨item, member, same⟩ := (exists_item_iff container).mpr grouped
  cases item with
  | single => cases same
  | masked other covered css => cases same; exact ⟨_, css, member, inside⟩

variable (container) in
/-- A visible child that is no mask is an item of its own, or a mask covers it. -/
theorem item_of_child {node : Node α} (member : node ∈ children)
    (visible : node.props.visible = true) (unmasked : node.props.isMask = false) :
    (∃ css, .single node css ∈ itemsOf container children) ∨
      ∃ mask, Covers children mask node := by
  have split := member
  rw [← splitAtMasks_flatten Node.view.isMask children, List.mem_append, List.mem_flatMap] at split
  rcases split with run | ⟨⟨mask, covered⟩, masked, inside⟩
  · left
    have grouped : .single node ∈ stackGroups Node.view children :=
      single_mem_stackGroups.mpr ⟨run, visible⟩
    obtain ⟨item, member, same⟩ := (exists_item_iff container).mpr grouped
    cases item with
    | single other css => cases same; exact ⟨css, member⟩
    | masked => cases same
  · right
    rcases List.mem_cons.mp inside with rfl | inside
    · -- The head of a group is a mask, which the node is not.
      obtain ⟨_, _, _, masks, _⟩ := (mem_splitAtMasks_snd _).mp masked
      simp [Node.view, unmasked] at masks
    · exact ⟨mask, covers_iff.mpr ⟨covered, masked, inside⟩⟩

end Items

end Artboard
