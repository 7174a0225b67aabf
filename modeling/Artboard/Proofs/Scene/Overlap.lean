import Artboard.Proofs.Scene.Enumeration
import Artboard.Proofs.Scene.Layouts
import Artboard.Proofs.Scene.Properties
import Artboard.Proofs.Scene.Stacking

/-!
# Overlap in a flow

A flow with negative spacing lets its children overlap by a leading margin. The
margin goes to every child that no mask covers except the first, whether these
stand in the flow or not. So the children in the flow except the first are those
that overlap exactly where no child beside another one is placed absolutely, and
no group stands in the flow after something else in it.
-/
namespace Artboard

variable {α γ : Type}

/-- The item at the place is marked, and an earlier one is. -/
def MarkedAgain (mark : γ → Bool) (items : List γ) (place : Nat) : Prop :=
  (∃ item, items[place]? = some item ∧ mark item = true) ∧
    ∃ earlier ∈ items.take place, mark earlier = true

theorem markedAgain_map {mark : γ → Bool} {items : List γ} {place : Nat} :
    MarkedAgain id (items.map mark) place ↔ MarkedAgain mark items place := by
  simp [MarkedAgain, ← List.map_take]

theorem markedAgain_iff {mark : γ → Bool} {items : List γ} {place : Nat} :
    MarkedAgain mark items place ↔ ∃ inside : place < items.length, mark items[place] = true ∧
      ∃ earlier, ∃ before : earlier < place, mark items[earlier] = true := by
  constructor
  · rintro ⟨⟨item, found, marked⟩, other, member, here⟩
    obtain ⟨inside, rfl⟩ := List.getElem?_eq_some_iff.mp found
    obtain ⟨earlier, before, rfl⟩ := List.mem_take_iff_getElem.mp member
    exact ⟨inside, marked, earlier, by omega, here⟩
  · rintro ⟨inside, marked, earlier, before, here⟩
    exact ⟨⟨_, List.getElem?_eq_getElem inside, marked⟩, _,
      List.mem_take_iff_getElem.mpr ⟨earlier, by omega, rfl⟩, here⟩

/-- Where the marked items come first, others are marked again at the same places if and only if
any two of them are both marked exactly where the later one had the first mark. -/
theorem markedAgain_iff_pairwise {mark other : γ → Bool} {items : List γ}
    (first : items.Pairwise fun earlier later => mark later = true → mark earlier = true) :
    (∀ place, MarkedAgain mark items place ↔ MarkedAgain other items place) ↔
      items.Pairwise fun earlier later =>
        (other earlier = true ∧ other later = true) ↔ mark later = true := by
  rw [List.pairwise_iff_getElem] at first ⊢
  simp only [markedAgain_iff]
  constructor
  · intro agree early late _ inside before
    -- A marked item after the first one is marked again, so it has the other mark too.
    have both : ∀ place (inside : place < items.length), 0 < place → mark items[place] = true →
        other items[place] = true ∧ ∃ earlier, ∃ before : earlier < place,
          other items[earlier] = true := by
      intro place inside positive marked
      have zeroth := first 0 place (positive.trans inside) inside positive marked
      exact ((agree place).mp ⟨inside, marked, 0, positive, zeroth⟩).2
    constructor
    · rintro ⟨here, there⟩
      exact ((agree late).mpr ⟨inside, there, early, before, here⟩).2.1
    · intro marked
      refine ⟨?_, (both late inside (by omega) marked).1⟩
      rcases Nat.eq_zero_or_pos early with rfl | positive
      · -- Of the first item only the second one tells that it has the other mark.
        have enough : 1 < items.length := by omega
        have second : mark items[1] = true := by
          rcases Nat.lt_or_eq_of_le (Nat.succ_le_iff.mpr before) with less | same
          · exact first 1 late enough inside less marked
          · subst same
            exact marked
        obtain ⟨-, earlier, less, here⟩ := both 1 enough one_pos second
        obtain rfl : earlier = 0 := by omega
        exact here
      · exact (both early _ positive (first early late _ inside before marked)).1
  · intro pairs place
    constructor
    · rintro ⟨inside, marked, earlier, before, -⟩
      obtain ⟨here, there⟩ := (pairs earlier place _ inside before).mpr marked
      exact ⟨inside, there, earlier, before, here⟩
    · rintro ⟨inside, there, earlier, before, here⟩
      have marked := (pairs earlier place _ inside before).mp ⟨here, there⟩
      exact ⟨inside, marked, earlier, before, first earlier place _ inside before marked⟩

/-- An item takes part in the flow unless the child or the mask that it is about is placed
absolutely. -/
def StackItem.inFlow (item : StackItem (Node α)) : Bool := !item.owner.props.absolutelyPositioned

/-- A relative box takes part in the flow. -/
def SceneBox.inFlow (box : SceneBox α) : Bool := decide (box.layout.position = .relative)

variable [Scalar α]

/-- The boxes that overlap the one before by the spacing are those at the places. -/
def OverlapsAt (margin : String) (spacing : α) (holds : Nat → Prop) (boxes : List (SceneBox α)) :
    Prop :=
  ∀ place box, boxes[place]? = some box →
    (holds place → box.declarations.get? margin = some (Css.px spacing)) ∧
      (¬ holds place → box.declarations.get? margin = none)

private theorem overlapsAt_iff {margin : String} {spacing : α} {holds others : Nat → Prop}
    {boxes : List (SceneBox α)} (overlaps : OverlapsAt margin spacing holds boxes) :
    OverlapsAt margin spacing others boxes ↔
      ∀ place < boxes.length, holds place ↔ others place := by
  constructor
  · intro also place inside
    have one := overlaps place _ (List.getElem?_eq_getElem inside)
    have other := also place _ (List.getElem?_eq_getElem inside)
    by_cases held : holds place <;> by_cases held' : others place <;> simp_all
  · intro same place box found
    rw [← same place (List.getElem?_eq_some_iff.mp found).1]
    exact overlaps place box found

/-- How the items of a flow with negative spacing are drawn. -/
structure Overlaps (container : NodeProps α) (items : List (StackItem (Node α)))
    (boxes : List (SceneBox α)) : Prop where
  drawn : List.Forall₂ (fun item box => box.id = item.owner.props.id ∧ box.inFlow = item.inFlow)
    items boxes
  /-- The children that no mask covers overlap, except for the first of them. -/
  singles : OverlapsAt (StackStyle.ofNode container).marginName container.itemSpacing
    (MarkedAgain (·.group.isSingle) items) boxes
  /-- These are the boxes in the flow except for the first of those, exactly where two items are
  both in the flow whenever the later one is such a child, and only then. -/
  flow : OverlapsAt (StackStyle.ofNode container).marginName container.itemSpacing
      (MarkedAgain SceneBox.inFlow boxes) boxes ↔
    items.Pairwise fun earlier later =>
      (earlier.inFlow = true ∧ later.inFlow = true) ↔ later.group.isSingle = true

/-! ### Items of a flow -/

section Items

private theorem get?_margin {style : StackStyle α} {view : ChildView γ} {children : List γ}
    (flows : style.autoLayout = true) (negative : style.spacing < 0.0) {place : Nat}
    {item : StackItem γ} (found : (stackItems style view children)[place]? = some item) :
    item.css.get? style.marginName =
      if item.group.isSingle = true ∧ 0 < place then some (Css.px style.spacing) else none := by
  have differs : (style.marginName == "z-index") = false := by
    simpa using style.marginName_ne_order
  have order (total index : Nat) : (style.orderCss total index).lookup style.marginName = none := by
    rw [StackStyle.orderCss]
    split <;> simp [List.lookup_cons, differs]
  rw [css_stackItems found, Css.Declarations.get?, style.toList_itemCss, List.lookup_append, order,
    Option.or_none, StackStyle.overlapCss]
  cases item.group.isSingle <;> cases place <;>
    simp [StackStyle.overlaps, flows, negative, StackStyle.marginName]

omit [Scalar α] in
private theorem marginName_mem (style : StackStyle α) : style.marginName ∈ stackProperties := by
  unfold StackStyle.marginName
  split <;> decide

/-- A single child after the first one is single again. -/
private theorem markedAgain_isSingle {style : StackStyle α} {view : ChildView γ}
    {children : List γ} {place : Nat} {item : StackItem γ}
    (found : (stackItems style view children)[place]? = some item) :
    MarkedAgain (·.group.isSingle) (stackItems style view children) place ↔
      item.group.isSingle = true ∧ 0 < place := by
  obtain ⟨inside, rfl⟩ := List.getElem?_eq_some_iff.mp found
  have first := List.pairwise_iff_getElem.mp (pairwise_stackItems style view children)
  rw [markedAgain_iff]
  constructor
  · rintro ⟨_, single, earlier, before, -⟩
    exact ⟨single, by omega⟩
  · rintro ⟨single, positive⟩
    exact ⟨inside, single, 0, positive, first 0 place (by omega) inside positive single⟩

/-- An item of a flow is drawn as a box of its owner, which is relative in the flow and declares
as an item what the item does. -/
private theorem drawn_item {template : String} {container : NodeProps α}
    {inherited : List (Shadow α)} {state : ContainerState α}
    (entered : ContainerState.ofNode container inherited = .ok state)
    (flows : container.isAutoLayout = true) {item : StackItem (Node α)} {drawn : SceneNode α}
    (returned : ItemReturns template state item drawn) :
    (drawn.box.id = item.owner.props.id ∧ drawn.box.inFlow = item.inFlow) ∧
      ∀ name ∈ stackProperties, drawn.box.declarations.get? name = item.css.get? name := by
  obtain ⟨-, -, -, flow⟩ := ContainerState.ofNode_cases entered
  have inFlow (child : NodeProps α) :
      (state.flowFor child).isSome = !child.absolutelyPositioned := by
    rw [ContainerState.flowFor, flow, flowOf, if_pos flows]
    cases child.absolutelyPositioned <;> rfl
  cases returned with
  | @single child css _ returned =>
    obtain ⟨props, children⟩ := child
    obtain ⟨box, below, rfl, boxed, -⟩ := compileNode_cases returned
    refine ⟨?_, fun name stacked => get?_nodeBox boxed stacked⟩
    obtain ⟨-, layout, style, content, computed, -, -, rfl⟩ := compileBox_cases boxed
    refine ⟨rfl, ?_⟩
    have relative := Layout.compute_position_iff computed
    rw [StackItem.inFlow, StackItem.owner, ← inFlow, Bool.eq_iff_iff]
    exact decide_eq_true_iff.trans relative
  | masked known styled _ =>
    refine ⟨⟨rfl, ?_⟩, fun name stacked => get?_maskBoxCss styled stacked⟩
    rw [StackItem.inFlow, StackItem.owner, ← inFlow]
    cases (state.flowFor _).isSome <;>
      simp [SceneBox.inFlow, SceneNode.box, maskBox, maskLayout, Layout.plain]

end Items

private theorem forall₂_drawn_items {template : String} {container : NodeProps α}
    {children : List (Node α)} {place : Surroundings α} {drawn : SceneNode α}
    (compiled : Compile.Returns (compileNode template (.mk container children) place) drawn)
    (frame : NodeKind.ofNode container = .frame) (flows : container.isAutoLayout = true) :
    List.Forall₂ (fun item box =>
      (box.id = item.owner.props.id ∧ box.inFlow = item.inFlow) ∧
        ∀ name ∈ stackProperties, box.declarations.get? name = item.css.get? name)
      (itemsOf container children) (drawn.children.map SceneNode.box) := by
  obtain ⟨box, below, rfl, -, compiled⟩ := compileNode_cases compiled
  rw [List.forall₂_map_right_iff]
  cases compiled with
  | leaf other => exact absurd frame other
  | bare none => subst none; exact .nil
  | items _ entered traversed => exact traversed.imp fun _ _ => drawn_item entered flows

/-- Negative spacing makes the children that no mask covers overlap, except for the first. -/
theorem negative_spacing_overlaps {template : String} {container : NodeProps α}
    {children : List (Node α)} {place : Surroundings α} {drawn : SceneNode α}
    (compiled : Compile.Returns (compileNode template (.mk container children) place) drawn)
    (frame : NodeKind.ofNode container = .frame) (flows : container.isAutoLayout = true)
    (negative : container.itemSpacing < 0.0) :
    Overlaps container (itemsOf container children) (drawn.children.map SceneNode.box) := by
  have related := forall₂_drawn_items compiled frame flows
  have singles : OverlapsAt (StackStyle.ofNode container).marginName container.itemSpacing
      (MarkedAgain (·.group.isSingle) (itemsOf container children))
      (drawn.children.map SceneNode.box) := by
    intro place box found
    obtain ⟨inside, rfl⟩ := List.getElem?_eq_some_iff.mp found
    have here : place < (itemsOf container children).length := related.length_eq ▸ inside
    have item := List.getElem?_eq_getElem here
    have margin := ((List.forall₂_iff_get.mp related).2 place here inside).2 _
      (marginName_mem (.ofNode container))
    simp only [List.get_eq_getElem] at margin
    have again : MarkedAgain (·.group.isSingle) (itemsOf container children) place ↔ _ :=
      markedAgain_isSingle item
    rw [margin, get?_margin flows negative item, again]
    exact ⟨fun held => if_pos held, fun other => if_neg other⟩
  refine ⟨related.imp fun _ _ item => item.1, singles, ?_⟩
  have marks : List.Forall₂ (· = ·) ((itemsOf container children).map StackItem.inFlow)
      ((drawn.children.map SceneNode.box).map SceneBox.inFlow) := by
    rw [List.forall₂_map_left_iff, List.forall₂_map_right_iff]
    exact related.imp fun _ _ item => item.1.2.symm
  rw [List.forall₂_eq_eq_eq] at marks
  have inFlow (place : Nat) : MarkedAgain SceneBox.inFlow (drawn.children.map SceneNode.box) place ↔
      MarkedAgain StackItem.inFlow (itemsOf container children) place := by
    rw [← markedAgain_map, ← marks, markedAgain_map]
  refine (overlapsAt_iff singles).trans (Iff.trans ?_
    (markedAgain_iff_pairwise (pairwise_stackItems (.ofNode container) Node.view children)))
  simp only [inFlow, ← related.length_eq]
  -- Past the last item none is marked.
  refine forall_congr' fun place => ⟨fun agree => ?_, fun agree _ => agree⟩
  by_cases inside : place < (itemsOf container children).length
  · exact agree inside
  · have past {mark : StackItem (Node α) → Bool} :
        ¬ MarkedAgain mark (itemsOf container children) place := fun marked =>
      inside (markedAgain_iff.mp marked).1
    exact iff_of_false past past

/-! ### Rows -/

/-- A row whose children overlap by four. -/
def squeezedRow : NodeProps Rat :=
  { plainProps "row" "FRAME" .identity with layoutMode := .horizontal, itemSpacing := -4 }

/-- The place of a node at the top of a composition. -/
def topPlace : Surroundings Rat where
  frame := .identity
  inherited := []
  flow := none
  itemCss := ∅

/-- A rectangle in the flow or out of it. -/
def squeezed (id : String) (loose : Bool) : Node Rat :=
  .mk { plainProps id "RECTANGLE" .identity with absolutelyPositioned := loose } []

private theorem exists_returns_of_any {β : Type} {action : Compile β} (holds : β → Bool)
    (computed : (action.outcome .empty).1.toOption.any holds = true) :
    ∃ value, Compile.Returns action value ∧ holds value = true := by
  obtain ⟨value, ended, held⟩ := Except.exists_of_any holds computed
  exact ⟨value, ⟨_, _, Prod.ext ended rfl⟩, held⟩

/-- Two children of a flow, one of them hidden, and the group of a mask out of it. -/
def squeezedChildren : List (Node Rat) :=
  [squeezed "first" false,
   .mk { plainProps "hidden" "RECTANGLE" .identity with visible := false } [],
   squeezed "second" false,
   .mk { plainProps "mask" "RECTANGLE" .identity with
         isMask := true, absolutelyPositioned := true } [],
   squeezed "covered" false]

theorem squeezedRow_overlaps :
    ∃ drawn, Compile.Returns (compileNode "" (.mk squeezedRow squeezedChildren) topPlace) drawn ∧
      NodeKind.ofNode squeezedRow = .frame ∧ squeezedRow.isAutoLayout = true ∧
      squeezedRow.itemSpacing < 0.0 ∧
      drawn.children.map (fun child =>
          (child.box.id, child.box.inFlow, child.box.declarations.get? "margin-left")) =
        [("first", true, none), ("second", true, some "-4px"), ("mask", false, none)] ∧
      Overlaps squeezedRow (itemsOf squeezedRow squeezedChildren)
        (drawn.children.map SceneNode.box) ∧
      OverlapsAt "margin-left" (-4)
        (MarkedAgain SceneBox.inFlow (drawn.children.map SceneNode.box))
        (drawn.children.map SceneNode.box) := by
  obtain ⟨drawn, compiled, looks⟩ := exists_returns_of_any
    (fun drawn : SceneNode Rat => drawn.children.map (fun child =>
        (child.box.id, child.box.inFlow, child.box.declarations.get? "margin-left")) =
      [("first", true, none), ("second", true, some "-4px"), ("mask", false, none)])
    (show ((compileNode "" (.mk squeezedRow squeezedChildren) topPlace).outcome
      .empty).1.toOption.any _ = true by decide +kernel)
  have overlaps := negative_spacing_overlaps compiled (by decide) (by decide) (by decide +kernel)
  have apart : (itemsOf squeezedRow squeezedChildren).Pairwise fun earlier later =>
      (earlier.inFlow = true ∧ later.inFlow = true) ↔ later.group.isSingle = true := by
    decide +kernel
  exact ⟨drawn, compiled, by decide, by decide, by decide +kernel, of_decide_eq_true looks,
    overlaps, overlaps.flow.mpr apart⟩

/-- A child out of the flow counts as the first one, so the first child in the flow overlaps. -/
theorem loose_child_counts_as_first :
    ∃ drawn, Compile.Returns (compileNode ""
        (.mk squeezedRow [squeezed "loose" true, squeezed "first" false]) topPlace) drawn ∧
      NodeKind.ofNode squeezedRow = .frame ∧ squeezedRow.isAutoLayout = true ∧
      squeezedRow.itemSpacing < 0.0 ∧
      ¬ OverlapsAt "margin-left" squeezedRow.itemSpacing
        (MarkedAgain SceneBox.inFlow (drawn.children.map SceneNode.box))
        (drawn.children.map SceneNode.box) := by
  obtain ⟨drawn, compiled, looks⟩ := exists_returns_of_any
    (fun drawn : SceneNode Rat => drawn.children.map (fun child =>
        (child.box.inFlow, child.box.declarations.get? "margin-left")) =
      [(false, none), (true, some "-4px")])
    (show ((compileNode "" (.mk squeezedRow
      [squeezed "loose" true, squeezed "first" false]) topPlace).outcome
      .empty).1.toOption.any _ = true by decide +kernel)
  refine ⟨drawn, compiled, by decide, by decide, by decide +kernel, fun overlaps => ?_⟩
  obtain ⟨loose, rest, children, outside, looks⟩ :=
    List.map_eq_cons_iff.mp (of_decide_eq_true looks)
  obtain ⟨first, rest, rfl, inside, looks⟩ := List.map_eq_cons_iff.mp looks
  obtain rfl := List.map_eq_nil_iff.mp looks
  simp only [Prod.mk.injEq] at outside inside
  rw [children] at overlaps
  have single : ¬ MarkedAgain SceneBox.inFlow [loose.box, first.box] 1 := by
    simp [MarkedAgain, outside]
  have absent := (overlaps 1 first.box rfl).2 single
  simp [absent] at inside

end Artboard
