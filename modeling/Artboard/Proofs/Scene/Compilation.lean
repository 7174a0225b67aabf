import Artboard.Scene.Composition
import Mathlib.Data.List.Forall2

/-!
# What compilation returns

Every run of the compiler is taken apart once: what a box, an item and a list of
children return, and from which computations. Later proofs cite these cases and
never unfold the compiler.
-/
namespace Artboard

variable {α : Type}

/-- A property that passes from the children of a node to the node holds of every node. -/
theorem Node.memInduction {P : Node α → Prop}
    (step : ∀ props children, (∀ child ∈ children, P child) → P (.mk props children)) :
    ∀ node, P node := fun node =>
  Node.rec (motive_1 := P) (motive_2 := fun nodes => ∀ node ∈ nodes, P node)
    step (by simp) (fun _ _ first rest => by simpa using ⟨first, rest⟩) node

theorem SceneNode.memInduction {P : SceneNode α → Prop}
    (step : ∀ box children, (∀ child ∈ children, P child) → P (.mk box children)) :
    ∀ node, P node := fun node =>
  SceneNode.rec (motive_1 := P) (motive_2 := fun nodes => ∀ node ∈ nodes, P node)
    step (by simp) (fun _ _ first rest => by simpa using ⟨first, rest⟩) node

theorem Except.bind_eq_ok_iff {ε β γ : Type} {action : Except ε β} {next : β → Except ε γ}
    {result : γ} :
    action >>= next = .ok result ↔ ∃ value, action = .ok value ∧ next value = .ok result := by
  cases action with
  | error fault => simp [bind, Except.bind]
  | ok value => simp [bind, Except.bind]

/-- What a traversal yields is yielded item by item. -/
theorem Except.forall₂_of_mapM {ε β γ : Type} {visit : β → Except ε γ} {items : List β}
    {results : List γ} (traversed : items.mapM visit = .ok results) :
    List.Forall₂ (fun item result => visit item = .ok result) items results := by
  induction items generalizing results with
  | nil =>
    cases traversed
    exact .nil
  | cons item rest ih =>
    rw [List.mapM_cons] at traversed
    obtain ⟨first, visited, traversed⟩ := Except.bind_eq_ok_iff.mp traversed
    obtain ⟨others, remaining, joined⟩ := Except.bind_eq_ok_iff.mp traversed
    cases joined
    exact .cons visited (ih remaining)

theorem exists_of_mem_right {β γ : Type} {R : β → γ → Prop} {items : List β} {results : List γ}
    (related : List.Forall₂ R items results) {result : γ} (member : result ∈ results) :
    ∃ item ∈ items, R item result := by
  induction related with
  | nil => cases member
  | cons first _ ih =>
    rcases List.mem_cons.mp member with rfl | member
    · exact ⟨_, .head _, first⟩
    · obtain ⟨item, here, related⟩ := ih member
      exact ⟨item, .tail _ here, related⟩

theorem exists_of_mem_left {β γ : Type} {R : β → γ → Prop} {items : List β} {results : List γ}
    (related : List.Forall₂ R items results) {item : β} (member : item ∈ items) :
    ∃ result ∈ results, R item result :=
  exists_of_mem_right related.flip member

/-- A traversal succeeds where each of its visits does. -/
theorem Except.exists_mapM {ε β γ : Type} {visit : β → Except ε γ} {items : List β}
    (each : ∀ item ∈ items, ∃ result, visit item = .ok result) :
    ∃ results, items.mapM visit = .ok results := by
  induction items with
  | nil => exact ⟨[], rfl⟩
  | cons item rest ih =>
    obtain ⟨⟨first, visited⟩, each⟩ := List.forall_mem_cons.mp each
    obtain ⟨others, traversed⟩ := ih each
    rw [List.mapM_cons, visited, traversed]
    exact ⟨first :: others, rfl⟩

theorem Except.exists_of_any {ε β : Type} {action : Except ε β} (holds : β → Bool)
    (computed : action.toOption.any holds = true) :
    ∃ value, action = .ok value ∧ holds value = true := by
  cases action with
  | error fault => cases computed
  | ok value => exact ⟨value, rfl, computed⟩

namespace Compile

variable {β γ : Type}

/-- The outcome of a computation and the rules that it leaves. -/
def outcome (action : Compile β) (before : PseudoRules) : Except Fault β × PseudoRules :=
  (action.run.run before).run

/-- From the rules before, the computation ends with the value and the rules after. -/
def Runs (action : Compile β) (before : PseudoRules) (value : β) (after : PseudoRules) : Prop :=
  action.outcome before = (.ok value, after)

/-- The computation can end with the value. -/
def Returns (action : Compile β) (value : β) : Prop :=
  ∃ before after, Runs action before value after

theorem outcome_pure (value : β) (before : PseudoRules) :
    outcome (pure value) before = (.ok value, before) := rfl

theorem outcome_throw (fault : Fault) (before : PseudoRules) :
    outcome (throw fault : Compile β) before = (.error fault, before) := rfl

theorem outcome_bind (action : Compile β) (next : β → Compile γ) (before : PseudoRules) :
    (action >>= next).outcome before =
      match action.outcome before with
      | (.ok value, between) => (next value).outcome between
      | (.error fault, between) => (.error fault, between) := by
  simp only [outcome, ExceptT.run_bind, StateT.run_bind, Id.run_bind]
  cases (action.run.run before).run with
  | mk first between => cases first <;> rfl

theorem runs_pure_iff {value result : β} {before after : PseudoRules} :
    Runs (pure value) before result after ↔ value = result ∧ before = after := by
  simp [Runs, outcome_pure]

theorem runs_bind_iff {action : Compile β} {next : β → Compile γ} {before after : PseudoRules}
    {result : γ} :
    Runs (action >>= next) before result after ↔
      ∃ value between, Runs action before value between ∧
        Runs (next value) between result after := by
  simp only [Runs, outcome_bind]
  cases action.outcome before with
  | mk first between => cases first <;> simp

theorem runs_ofExcept_iff {result? : Except Fault β} {before after : PseudoRules} {result : β} :
    Runs (ofExcept result?) before result after ↔ result? = .ok result ∧ before = after := by
  cases result? with
  | ok value => simp [ofExcept, runs_pure_iff]
  | error fault => simp [ofExcept, Runs, outcome_throw]

theorem returns_pure_iff {value result : β} : Returns (pure value) result ↔ value = result := by
  simp only [Returns, runs_pure_iff]
  exact ⟨fun ⟨_, _, same, _⟩ => same, fun same => ⟨.empty, .empty, same, rfl⟩⟩

theorem Returns.bind {action : Compile β} {next : β → Compile γ} {result : γ}
    (returned : Returns (action >>= next) result) :
    ∃ value, Returns action value ∧ Returns (next value) result := by
  obtain ⟨before, after, run⟩ := returned
  obtain ⟨value, between, first, second⟩ := runs_bind_iff.mp run
  exact ⟨value, ⟨_, _, first⟩, ⟨_, _, second⟩⟩

theorem returns_ofExcept_iff {result? : Except Fault β} {result : β} :
    Returns (ofExcept result?) result ↔ result? = .ok result := by
  simp only [Returns, runs_ofExcept_iff]
  exact ⟨fun ⟨_, _, same, _⟩ => same, fun same => ⟨.empty, .empty, same, rfl⟩⟩

theorem not_returns_stopAt {cause : Violation} {result : β} : ¬ Returns (stopAt cause) result := by
  simp [Returns, Runs, stopAt, outcome_throw]

/-- What a traversal returns is returned item by item. -/
theorem Returns.mapM {visit : β → Compile γ} {items : List β} {results : List γ}
    (returned : Returns (items.mapM visit) results) :
    List.Forall₂ (fun item result => Returns (visit item) result) items results := by
  induction items generalizing results with
  | nil =>
    rw [List.mapM_nil, returns_pure_iff] at returned
    subst results
    exact .nil
  | cons item items ih =>
    rw [List.mapM_cons] at returned
    obtain ⟨first, visited, returned⟩ := returned.bind
    obtain ⟨rest, traversed, returned⟩ := returned.bind
    obtain rfl := returns_pure_iff.mp returned
    exact .cons visited (ih traversed)

end Compile

/-! ### Items of nodes -/

def StackGroup.map {β γ : Type} (f : β → γ) : StackGroup β → StackGroup γ
  | .single child => .single (f child)
  | .masked mask covered => .masked (f mask) (covered.map f)

def StackItem.map {β γ : Type} (f : β → γ) : StackItem β → StackItem γ
  | .single child css => .single (f child) css
  | .masked mask covered css => .masked (f mask) (covered.map f) css

/-- What stacking needs to know of children that stand for others. -/
def ChildView.comap {β γ : Type} (view : ChildView γ) (f : β → γ) : ChildView β where
  isMask := fun child => view.isMask (f child)
  visible := fun child => view.visible (f child)

section Stacking

variable {β γ : Type} (view : ChildView γ) (f : β → γ)

private theorem splitAtMasks_map (children : List β) :
    splitAtMasks view.isMask (children.map f) =
      ((splitAtMasks (view.comap f).isMask children).1.map f,
        (splitAtMasks (view.comap f).isMask children).2.map
          fun entry => (f entry.1, entry.2.map f)) := by
  induction children with
  | nil => rfl
  | cons child rest ih =>
    have same : (view.comap f).isMask child = view.isMask (f child) := rfl
    simp only [List.map_cons, splitAtMasks, ih, same]
    cases view.isMask (f child) <;> rfl

private theorem stackGroups_map (children : List β) :
    stackGroups view (children.map f) =
      (stackGroups (view.comap f) children).map (StackGroup.map f) := by
  simp [stackGroups, splitAtMasks_map, List.filter_map, Function.comp_def, ChildView.comap,
    StackGroup.map]

private theorem itemsFrom_map [Scalar α] (style : StackStyle α) (total index position : Nat)
    (groups : List (StackGroup β)) :
    style.itemsFrom total index position (groups.map (StackGroup.map f)) =
      (style.itemsFrom total index position groups).map (StackItem.map f) := by
  induction groups generalizing index position with
  | nil => rfl
  | cons group rest ih =>
    cases group <;> simp [StackGroup.map, StackItem.map, StackStyle.itemsFrom, ih]

/-- Stacking looks at children only through the view. -/
theorem stackItems_map [Scalar α] (style : StackStyle α) (children : List β) :
    stackItems style view (children.map f) =
      (stackItems style (view.comap f) children).map (StackItem.map f) := by
  simp [stackItems, stackGroups_map, itemsFrom_map]

end Stacking

/-- What stacking needs to know of a node. -/
def Node.view : ChildView (Node α) where
  isMask := fun node => node.props.isMask
  visible := fun node => node.props.visible

variable [Scalar α]

/-- A node with the way to compile it. -/
def Child.ofNode (template : String) (node : Node α) : Child α where
  props := node.props
  compile := fun place => compileNode template node place

theorem childrenOf_eq_map (template : String) (nodes : List (Node α)) :
    childrenOf template nodes = nodes.map (Child.ofNode template) := by
  induction nodes with
  | nil => rfl
  | cons node rest ih => simp [childrenOf, ih, Child.ofNode]

/-- The items of a container's nodes. -/
def itemsOf (container : NodeProps α) (children : List (Node α)) : List (StackItem (Node α)) :=
  stackItems (.ofNode container) Node.view children

theorem stackItems_childrenOf (template : String) (container : NodeProps α)
    (children : List (Node α)) :
    stackItems (.ofNode container) Child.view (childrenOf template children) =
      (itemsOf container children).map (StackItem.map (Child.ofNode template)) := by
  rw [childrenOf_eq_map, stackItems_map]
  rfl

/-! ### Boxes, items and nodes -/

open Compile

/-- A returned box is that of a visible node with the layout, the style and the content found for
it. -/
theorem compileBox_cases {template : String} {node : NodeProps α} {flows : Bool}
    {place : Surroundings α} {box : SceneBox α}
    (returned : Returns (compileBox template node flows place) box) :
    node.visible = true ∧ ∃ layout style content,
      Layout.compute node flows place.frame place.flow = .ok layout ∧
      BoxStyle.ofNode template node (NodeKind.ofNode node) node.style.isBareHolder
        place.inherited = .ok style ∧
      contentOf node (NodeKind.ofNode node) style.textUsesFlex = .ok content ∧
      box = nodeBox node place layout style content := by
  unfold compileBox at returned
  cases shown : node.visible with
  | false =>
    simp only [shown, Bool.not_false, if_true] at returned
    obtain ⟨_, stopped, _⟩ := returned.bind
    exact (not_returns_stopAt stopped).elim
  | true =>
    simp only [shown, Bool.not_true, Bool.false_eq_true, if_false] at returned
    obtain ⟨layout, placed, returned⟩ := returned.bind
    obtain ⟨style, styled, returned⟩ := returned.bind
    -- The rule of a pseudo-element changes what the run leaves behind, not what it returns.
    have filled : ∃ content,
        Returns (Compile.ofExcept
          (contentOf node (NodeKind.ofNode node) style.textUsesFlex)) content ∧
        Returns (pure (nodeBox node place layout style content)) box := by
      split at returned
      · obtain ⟨_, -, returned⟩ := returned.bind
        exact returned.bind
      · exact returned.bind
    obtain ⟨content, filled, returned⟩ := filled
    exact ⟨rfl, layout, style, content, returns_ofExcept_iff.mp placed,
      returns_ofExcept_iff.mp styled, returns_ofExcept_iff.mp filled,
      (returns_pure_iff.mp returned).symm⟩

/-- Where the container places a child that no mask covers. -/
def ContainerState.place (state : ContainerState α) (child : NodeProps α)
    (css : Css.Declarations) : Surroundings α where
  frame := state.frame
  inherited := state.inherited
  flow := state.flowFor child
  itemCss := css

/-- Where a mask places the nodes that it covers. -/
def ContainerState.placeCovered (state : ContainerState α) (absolute : Affine α) :
    Surroundings α where
  frame := absolute
  inherited := state.inherited
  flow := none
  itemCss := ∅

/-- What the item of a container is compiled to. -/
inductive ItemReturns (template : String) (state : ContainerState α) :
    StackItem (Node α) → SceneNode α → Prop
  | single {child css drawn} :
      Returns (compileNode template child (state.place child.props css)) drawn →
      ItemReturns template state (.single child css) drawn
  | masked {mask covered css absolute declared below} :
      mask.props.absoluteTransform = some absolute →
      maskBoxCss template mask.props css = .ok declared →
      List.Forall₂ (fun child drawn =>
          Returns (compileNode template child (state.placeCovered absolute)) drawn)
        (covered.filter fun child => child.props.visible) below →
      ItemReturns template state (.masked mask covered css)
        (.mk (maskBox mask.props (state.inverse.compose absolute)
          (state.flowFor mask.props).isSome declared) below)

theorem itemReturns_of_compileItem {template : String} {state : ContainerState α}
    {item : StackItem (Node α)} {drawn : SceneNode α}
    (returned : Returns (compileItem template state (item.map (Child.ofNode template))) drawn) :
    ItemReturns template state item drawn := by
  cases item with
  | single child css => exact .single returned
  | masked mask covered css =>
    simp only [StackItem.map, compileItem, compileMasked, Child.ofNode] at returned
    split at returned
    · exact (not_returns_stopAt returned).elim
    next absolute known =>
      obtain ⟨declared, styled, returned⟩ := returned.bind
      obtain ⟨below, traversed, returned⟩ := returned.bind
      obtain rfl := returns_pure_iff.mp returned
      refine .masked known (returns_ofExcept_iff.mp styled) ?_
      -- The compiler filters the children with their functions; the view is the same on the nodes.
      have related := traversed.mapM
      rw [List.filter_map, List.forall₂_map_left_iff] at related
      exact related

/-- What is compiled below a node: nothing unless it is a frame with children, else the items of
its children in the state that it hands down. -/
inductive BelowReturns (template : String) (props : NodeProps α) (inherited : List (Shadow α))
    (children : List (Node α)) : List (SceneNode α) → Prop
  | leaf : NodeKind.ofNode props ≠ .frame → BelowReturns template props inherited children []
  | bare : children = [] → BelowReturns template props inherited children []
  | items {state below} :
      NodeKind.ofNode props = .frame →
      ContainerState.ofNode props inherited = .ok state →
      List.Forall₂ (ItemReturns template state) (itemsOf props children) below →
      BelowReturns template props inherited children below

theorem belowReturns_of_compileChildren {template : String} {props : NodeProps α}
    {inherited : List (Shadow α)} {children : List (Node α)} {below : List (SceneNode α)}
    (isFrame : NodeKind.ofNode props = .frame)
    (returned : Returns
      (compileChildren template props inherited (childrenOf template children)) below) :
    BelowReturns template props inherited children below := by
  unfold compileChildren at returned
  cases children with
  | nil =>
    obtain rfl := returns_pure_iff.mp returned
    exact .bare rfl
  | cons child rest =>
    have inhabited : (childrenOf template (child :: rest)).isEmpty = false := rfl
    simp only [inhabited, Bool.false_eq_true, if_false] at returned
    obtain ⟨state, entered, returned⟩ := returned.bind
    -- Stacking never runs the functions, so its items are those of the nodes.
    rw [stackItems_childrenOf] at returned
    have related := returned.mapM
    rw [List.forall₂_map_left_iff] at related
    exact .items isFrame (returns_ofExcept_iff.mp entered)
      (related.imp fun _ _ => itemReturns_of_compileItem)

/-- A compiled node has the box of the node and, below it, what its children are compiled to. -/
theorem compileNode_cases {template : String} {props : NodeProps α} {children : List (Node α)}
    {place : Surroundings α} {drawn : SceneNode α}
    (returned : Returns (compileNode template (.mk props children) place) drawn) :
    ∃ box below, drawn = .mk box below ∧
      Returns (compileBox template props (hasFlowChildren children) place) box ∧
      BelowReturns template props place.inherited children below := by
  unfold compileNode at returned
  obtain ⟨box, boxed, returned⟩ := returned.bind
  -- The compiler asks the box for its kind, not the node.
  have kind : box.kind = NodeKind.ofNode props := by
    obtain ⟨_, _, _, _, _, _, _, rfl⟩ := compileBox_cases boxed
    rfl
  split at returned
  next isFrame =>
    obtain ⟨below, compiled, returned⟩ := returned.bind
    exact ⟨box, below, (returns_pure_iff.mp returned).symm, boxed,
      belowReturns_of_compileChildren (kind ▸ isFrame) compiled⟩
  next other =>
    exact ⟨box, [], (returns_pure_iff.mp returned).symm, boxed, .leaf (kind ▸ other)⟩

/-- A compiled composition is blank for want of nodes, or its top-level nodes were compiled. -/
theorem compileComposition_cases {template : String} {provider : FontProvider}
    {composition : Composition α} {scene : CompiledScene α}
    (compiled : compileComposition template provider composition = .ok scene) :
    (composition.children = [] ∧
      scene = .blank (composition.bounds.map fun size => ⟨0.0, 0.0, size.width, size.height⟩)) ∨
    ∃ origin, composition.absOrigin = some origin ∧
      Runs (compileTopLevel template origin composition.children) .empty scene.nodes
        scene.rules := by
  unfold compileComposition at compiled
  cases nodes : composition.children with
  | nil =>
    rw [nodes] at compiled
    cases compiled
    exact .inl ⟨rfl, rfl⟩
  | cons first rest =>
    right
    simp only [nodes, List.isEmpty_cons, Bool.false_eq_true, if_false] at compiled
    split at compiled
    · contradiction
    next origin known =>
      refine ⟨origin, known, ?_⟩
      cases run : StateT.run (ExceptT.run (compileTopLevel template origin (first :: rest)))
          PseudoRules.empty with
      | mk ended rules =>
        rw [run] at compiled
        -- What comes after the nodes collects from them and leaves them as they are.
        obtain ⟨drawn, rfl, joined⟩ := Except.bind_eq_ok_iff.mp compiled
        obtain ⟨union, -, collected⟩ := Except.bind_eq_ok_iff.mp joined
        cases collected
        exact run

end Artboard
