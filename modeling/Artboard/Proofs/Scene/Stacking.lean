import Artboard.Proofs.Css.Bag
import Artboard.Proofs.Scene.Groups

/-!
# How items stack

The items of a container partition the visible children that are no masks, in the
order of the children. Where the container orders its items, each of them has one
place in the order and the places count the items; elsewhere none has a place.
-/
namespace Artboard

variable {α γ : Type}

/-- The children that a group shows. A mask is not shown. -/
def StackGroup.shown (view : ChildView γ) : StackGroup γ → List γ
  | .single child => [child]
  | .masked _ covered => covered.filter view.visible

/-- The group is a child that no mask covers. -/
def StackGroup.isSingle : StackGroup γ → Bool
  | .single _ => true
  | .masked _ _ => false

namespace StackItem

/-- The children that an item shows. -/
def shown (view : ChildView γ) (item : StackItem γ) : List γ := item.group.shown view

/-- The stacking orders that an item declares. -/
def orders (item : StackItem γ) : List String :=
  (item.css.toList.filter fun declaration => declaration.1 = "z-index").map Prod.snd

end StackItem

/-- What stacking needs to know of a place among children. -/
def ChildView.at (view : ChildView γ) (children : List γ) : ChildView Nat where
  isMask := fun place => children[place]?.any view.isMask
  visible := fun place => children[place]?.any view.visible

/-- The items of children, each child given by its place among them. -/
def stackPlaces [Scalar α] (style : StackStyle α) (view : ChildView γ) (children : List γ) :
    List (StackItem Nat) :=
  stackItems style (view.at children) (List.range children.length)

/-- The items at the places are the items of the children. -/
theorem stackItems_eq_stackPlaces [Scalar α] (style : StackStyle α) (view : ChildView γ)
    (children : List γ) :
    (stackItems style view children).map (StackItem.map some) =
      (stackPlaces style view children).map (StackItem.map (children[·]?)) := by
  let found : ChildView (Option γ) := ⟨Option.any view.isMask, Option.any view.visible⟩
  have looked : (List.range children.length).map (children[·]?) = children.map some := by
    refine List.ext_getElem (by simp) fun place _ _ => ?_
    simp_all
  calc (stackItems style view children).map (StackItem.map some)
      = stackItems style found (children.map some) := (stackItems_map found some style _).symm
    _ = stackItems style found ((List.range children.length).map (children[·]?)) := by rw [looked]
    _ = (stackPlaces style view children).map (StackItem.map (children[·]?)) :=
        stackItems_map found (children[·]?) style _

/-! ### The partition -/

section Partition

private theorem flatMap_filter {β : Type} (keep : γ → Bool) (visit : γ → List β)
    (items : List γ) :
    (items.filter keep).flatMap visit =
      items.flatMap fun item => if keep item then visit item else [] := by
  induction items with
  | nil => rfl
  | cons item rest ih => cases kept : keep item <;> simp [kept, ih]

/-- Groups show every visible child that is no mask, once and in order. -/
private theorem flatMap_shown_stackGroups (view : ChildView γ) (children : List γ) :
    (stackGroups view children).flatMap (StackGroup.shown view) =
      children.filter fun child => view.visible child && !view.isMask child := by
  have unmasked {run : List γ} (clear : ∀ child ∈ run, (!view.isMask child) = true) :
      run.filter (fun child => view.visible child && !view.isMask child) =
        run.filter view.visible :=
    List.filter_congr fun child member => by simp [clear child member]
  have run : ∀ child ∈ (splitAtMasks view.isMask children).1, (!view.isMask child) = true := by
    rw [splitAtMasks_fst]
    exact fun _ => List.mem_takeWhile_imp
  -- A group that is left out would show nothing, and the mask of a group is not shown.
  have group : ∀ entry ∈ (splitAtMasks view.isMask children).2,
      (if entry.2.any view.visible then (StackGroup.masked entry.1 entry.2).shown view else []) =
        (entry.1 :: entry.2).filter fun child => view.visible child && !view.isMask child := by
    rintro ⟨mask, covered⟩ member
    obtain ⟨_, rest, -, masks, rfl⟩ := (mem_splitAtMasks_snd _).mp member
    rw [List.filter_cons_of_neg (by simp [masks]), unmasked fun _ => List.mem_takeWhile_imp]
    split
    · rfl
    next hidden => exact (List.filter_eq_nil_iff.mpr (by simpa using hidden)).symm
  conv_rhs => rw [← splitAtMasks_flatten view.isMask children, List.filter_append,
    List.filter_flatMap, unmasked run, ← List.flatMap_congr group, ← flatMap_filter]
  simp only [stackGroups, List.flatMap_append, List.flatMap_map, StackGroup.shown,
    List.flatMap_singleton']

private theorem mem_takeWhile_range' {holds : Nat → Bool} {start size place : Nat} :
    place ∈ (List.range' start size).takeWhile holds ↔ start ≤ place ∧ place < start + size ∧
      ∀ other, start ≤ other → other ≤ place → holds other = true := by
  rw [mem_takeWhile_iff]
  constructor
  · rintro ⟨before, after, split, here, all⟩
    obtain ⟨_, _, rfl, rest⟩ := List.range'_eq_append_iff.mp split
    obtain ⟨rfl, _, -⟩ := List.range'_eq_cons_iff.mp rest.symm
    refine ⟨by omega, by omega, fun other lower upper => ?_⟩
    rcases Nat.lt_or_eq_of_le upper with less | rfl
    · exact all other (List.mem_range'_1.mpr (by omega))
    · exact here
  · rintro ⟨lower, upper, all⟩
    refine ⟨List.range' start (place - start), List.range' (place + 1) (start + size - place - 1),
      ?_, all place lower le_rfl, fun other member => ?_⟩
    · refine List.range'_eq_append_iff.mpr ⟨place - start, by omega, rfl, ?_⟩
      exact (List.range'_eq_cons_iff.mpr ⟨by omega, by omega, by congr 1; omega⟩).symm
    · have bounds := List.mem_range'_1.mp member
      exact all other (by omega) (by omega)

/-- The group of a mask covers the places between it and the next mask. -/
private theorem mem_splitAtMasks_range {isMask : Nat → Bool} {count mask : Nat} {run : List Nat}
    (member : (mask, run) ∈ (splitAtMasks isMask (List.range count)).2) :
    isMask mask = true ∧ ∀ place, place ∈ run ↔ mask < place ∧ place < count ∧
      ∀ between, mask < between → between ≤ place → isMask between = false := by
  obtain ⟨before, rest, split, masks, rfl⟩ := (mem_splitAtMasks_snd _).mp member
  rw [List.range_eq_range'] at split
  obtain ⟨_, _, -, later⟩ := List.range'_eq_append_iff.mp split
  obtain ⟨rfl, _, rfl⟩ := List.range'_eq_cons_iff.mp later.symm
  refine ⟨masks, fun place => ?_⟩
  rw [mem_takeWhile_range']
  simp only [Bool.not_eq_true', Nat.succ_le_iff]
  refine and_congr_right fun _ => and_congr_left fun _ => ?_
  omega

end Partition

/-! ### The order -/

section Order

variable [Scalar α] (style : StackStyle α)

/-- The margin by which a flow overlaps. -/
def StackStyle.marginName : String := if style.vertical then "margin-top" else "margin-left"

omit [Scalar α] in
theorem StackStyle.marginName_ne_order : style.marginName ≠ "z-index" := by
  unfold marginName
  split <;> decide

theorem StackStyle.overlapCss_zero : style.overlapCss 0 = [] := by simp [overlapCss]

private theorem overlapCss_cases (position : Nat) : style.overlapCss position = [] ∨
    style.overlapCss position = [(style.marginName, Css.px style.spacing)] := by
  unfold StackStyle.overlapCss
  split
  · exact .inr rfl
  · exact .inl rfl

private theorem orderCss_cases (total index : Nat) : style.orderCss total index = [] ∨
    ∃ order, style.orderCss total index = [("z-index", order)] := by
  unfold StackStyle.orderCss
  split
  · exact .inr ⟨_, rfl⟩
  · exact .inl rfl

/-- The margin has another name than the order, so an item declares both as they are. -/
theorem StackStyle.toList_itemCss (total index position : Nat) :
    (Css.Declarations.ofList (style.overlapCss position ++ style.orderCss total index)).toList =
      style.overlapCss position ++ style.orderCss total index := by
  have differs := style.marginName_ne_order
  refine Css.Declarations.toList_ofList ?_
  rcases overlapCss_cases style position with margin | margin <;>
    rcases orderCss_cases style total index with order | ⟨_, order⟩ <;>
    simp [margin, order, Css.names, differs]

/-- An item has the order of its place among the items, and an item of its own the margin of its
place among those. -/
private theorem css_itemsFrom (total : Nat) (groups : List (StackGroup γ)) :
    ∀ {index position place : Nat} {item : StackItem γ},
      (style.itemsFrom total index position groups)[place]? = some item →
      item.css = .ofList (style.overlapCss (if item.group.isSingle then
          position + (groups.take place).countP StackGroup.isSingle else 0) ++
        style.orderCss total (index + place)) := by
  induction groups with
  | nil => intro index position place item found; simp [StackStyle.itemsFrom] at found
  | cons group rest ih =>
    intro index position place item found
    cases group with
    | single child =>
      cases place with
      | zero =>
        obtain rfl := Option.some.inj found
        simp [StackItem.css, StackItem.group, StackGroup.isSingle]
      | succ place =>
        rw [ih found, List.take_succ_cons, List.countP_cons_of_pos rfl,
          Nat.add_right_comm index, Nat.add_right_comm position]
        rfl
    | masked mask covered =>
      cases place with
      | zero =>
        obtain rfl := Option.some.inj found
        simp [StackItem.css, StackItem.group, StackGroup.isSingle, style.overlapCss_zero]
      | succ place =>
        rw [ih found, List.take_succ_cons, List.countP_cons_of_neg Bool.false_ne_true,
          Nat.add_right_comm index]
        rfl

/-- The children that no mask covers come first among the groups. -/
private theorem pairwise_stackGroups (view : ChildView γ) (children : List γ) :
    (stackGroups view children).Pairwise fun earlier later =>
      later.isSingle = true → earlier.isSingle = true := by
  rw [stackGroups, List.pairwise_append]
  refine ⟨?singles, ?masked, ?across⟩
  case singles => exact List.pairwise_map.mpr (List.pairwise_of_forall fun _ _ _ => rfl)
  case masked =>
    exact List.pairwise_map.mpr
      (List.pairwise_of_forall fun _ _ masked => absurd masked Bool.false_ne_true)
  case across =>
    intro earlier member _ _ _
    obtain ⟨_, -, rfl⟩ := List.mem_map.mp member
    rfl

private theorem countP_take_stackGroups {view : ChildView γ} {children : List γ} {place : Nat}
    {group : StackGroup γ} (found : (stackGroups view children)[place]? = some group)
    (isSingle : group.isSingle = true) :
    ((stackGroups view children).take place).countP StackGroup.isSingle = place := by
  obtain ⟨inside, rfl⟩ := List.getElem?_eq_some_iff.mp found
  have first := List.pairwise_iff_getElem.mp (pairwise_stackGroups view children)
  have all : ∀ group ∈ (stackGroups view children).take place, group.isSingle = true := by
    intro group member
    obtain ⟨earlier, before, rfl⟩ := List.mem_take_iff_getElem.mp member
    exact first earlier place (by omega) inside (by omega) isSingle
  rw [List.countP_eq_length.mpr all, List.length_take, Nat.min_eq_left inside.le]

private theorem needsOrder_iff : style.needsOrder = true ↔
    style.autoLayout = false ∨ style.spacing < 0.0 ∨ style.reversed = true := by
  simp [StackStyle.needsOrder, StackStyle.overlaps, or_assoc]

end Order

/-- How items stand to the children that they are made of, by place. -/
structure Stacks [Scalar α] (style : StackStyle α) (view : ChildView Nat) (count : Nat)
    (items : List (StackItem Nat)) : Prop where
  /-- Every visible child that is no mask is shown, once and in order. -/
  shown : items.flatMap (StackItem.shown view) =
    (List.range count).filter fun place => view.visible place && !view.isMask place
  single : ∀ {place css}, .single place css ∈ items →
    view.visible place = true ∧ view.isMask place = false
  /-- A group is that of a mask and of all that follows it up to the next one. -/
  masked : ∀ {mask covered css}, .masked mask covered css ∈ items →
    view.isMask mask = true ∧ (∃ place ∈ covered, view.visible place = true) ∧
      ∀ place, place ∈ covered ↔ mask < place ∧ place < count ∧
        ∀ between, mask < between → between ≤ place → view.isMask between = false
  ordered : style.autoLayout = false ∨ style.spacing < 0.0 ∨ style.reversed = true →
    ∀ place item, items[place]? = some item →
      item.orders = [toString (if style.reversed then items.length - place else place + 1)]
  unordered : ¬ (style.autoLayout = false ∨ style.spacing < 0.0 ∨ style.reversed = true) →
    ∀ item ∈ items, item.orders = []

section Items

variable [Scalar α] (style : StackStyle α) (view : ChildView γ) (children : List γ)

private theorem flatMap_shown_stackItems :
    (stackItems style view children).flatMap (StackItem.shown view) =
      children.filter fun child => view.visible child && !view.isMask child := by
  rw [← flatMap_shown_stackGroups]
  conv_rhs => rw [← itemsFrom_group style (stackGroups view children).length 0 0
    (stackGroups view children), List.flatMap_map]
  rfl

variable {style view children} in
private theorem group_mem_stackGroups {item : StackItem γ}
    (member : item ∈ stackItems style view children) : item.group ∈ stackGroups view children := by
  rw [← itemsFrom_group style (stackGroups view children).length 0 0 (stackGroups view children)]
  exact List.mem_map_of_mem member

private theorem length_stackItems :
    (stackItems style view children).length = (stackGroups view children).length := by
  rw [stackItems, ← List.length_map StackItem.group, itemsFrom_group]

/-- The children that no mask covers come first among the items. -/
theorem pairwise_stackItems : (stackItems style view children).Pairwise fun earlier later =>
    later.group.isSingle = true → earlier.group.isSingle = true := by
  have first := pairwise_stackGroups view children
  rwa [← itemsFrom_group style (stackGroups view children).length 0 0 (stackGroups view children),
    List.pairwise_map] at first

variable {style view children} in
/-- An item has the margin and the order of its place; a group has no margin. -/
theorem css_stackItems {place : Nat} {item : StackItem γ}
    (found : (stackItems style view children)[place]? = some item) :
    item.css = .ofList (style.overlapCss (if item.group.isSingle then place else 0) ++
      style.orderCss (stackItems style view children).length place) := by
  have grouped : (stackGroups view children)[place]? = some item.group := by
    rw [← itemsFrom_group style (stackGroups view children).length 0 0 (stackGroups view children),
      List.getElem?_map]
    exact congrArg _ found
  rw [length_stackItems, css_itemsFrom style _ _ found, Nat.zero_add, Nat.zero_add]
  cases isSingle : item.group.isSingle with
  | false => rfl
  | true => rw [if_pos rfl, if_pos rfl, countP_take_stackGroups grouped isSingle]

variable {style view children} in
private theorem orders_stackItems {place : Nat} {item : StackItem γ}
    (found : (stackItems style view children)[place]? = some item) :
    item.orders =
      (style.orderCss (stackItems style view children).length place).map Prod.snd := by
  have differs := style.marginName_ne_order
  rw [StackItem.orders, css_stackItems found, style.toList_itemCss]
  rcases overlapCss_cases style (if item.group.isSingle then place else 0) with margin | margin <;>
    rcases orderCss_cases style (stackItems style view children).length place with
      order | ⟨_, order⟩ <;>
    simp [margin, order, differs]

/-- Items partition the visible children that are no masks, and count themselves where they are
ordered. -/
theorem items_stack_children :
    (stackItems style view children).map (StackItem.map some) =
        (stackPlaces style view children).map (StackItem.map (children[·]?)) ∧
      Stacks style (view.at children) children.length (stackPlaces style view children) := by
  refine ⟨stackItems_eq_stackPlaces style view children, ?_⟩
  refine {
    shown := flatMap_shown_stackItems ..
    single := fun member => visible_of_single (group_mem_stackGroups member)
    masked := fun member => ?_
    ordered := fun needed place item found => ?_
    unordered := fun free item member => ?_ }
  · obtain ⟨split, visible⟩ := masked_mem_stackGroups.mp (group_mem_stackGroups member)
    obtain ⟨masks, covered⟩ := mem_splitAtMasks_range split
    exact ⟨masks, visible, covered⟩
  · rw [orders_stackItems found, StackStyle.orderCss, if_pos ((needsOrder_iff style).mpr needed)]
    rfl
  · obtain ⟨place, found⟩ := List.getElem?_of_mem member
    rw [orders_stackItems found, StackStyle.orderCss, if_neg (mt (needsOrder_iff style).mp free)]
    rfl

/-- A mask without visible siblings heads no item, and a reversed flow counts down. -/
example : ((stackPlaces ⟨true, false, (8 : Rat), true⟩ ⟨Prod.fst, Prod.snd⟩
    [(false, true), (true, true), (false, false), (false, true), (true, true)]).map
      fun item => (item.owner, item.orders)) = [(0, ["2"]), (1, ["1"])] := by decide +kernel

end Items

end Artboard
