import Artboard.Proofs.Scene.Enumeration
import Artboard.Proofs.Scene.Properties
import Artboard.Render.Markup

/-!
# Hidden nodes

A hidden node is neither visible nor a mask. A composition without it has the
same boxes and the same rules, so the same drawings. The two compilations are
compared step by step; they part only where the container that the deletion
empties has no inverse frame, which without children nothing asks for.
-/
namespace Artboard

variable {α : Type}

/-! ### Computations that agree -/

namespace Compile

variable {β γ : Type} {stops : Prop}

/-- Both computations have the same outcome, unless a fault may stop the first and does. -/
def AgreesUnless (stops : Prop) (first second : Compile β) : Prop :=
  ∀ before, first.outcome before = second.outcome before ∨
    stops ∧ ∃ fault, (first.outcome before).1 = .error fault

theorem AgreesUnless.refl (action : Compile β) : AgreesUnless stops action action :=
  fun _ => .inl rfl

theorem AgreesUnless.bind {action other : Compile β} {next following : β → Compile γ}
    (first : AgreesUnless stops action other)
    (rest : ∀ value, Returns action value → AgreesUnless stops (next value) (following value)) :
    AgreesUnless stops (action >>= next) (other >>= following) := by
  intro before
  rw [outcome_bind, outcome_bind]
  rcases first before with same | ⟨allowed, fault, stopped⟩
  · rw [← same]
    cases ended : action.outcome before with
    | mk result between =>
      cases result with
      | error fault => exact .inl rfl
      | ok value => exact rest value ⟨before, between, ended⟩ between
  · refine .inr ⟨allowed, fault, ?_⟩
    cases ended : action.outcome before with
    | mk result between =>
      rw [ended] at stopped
      subst stopped
      rfl

theorem AgreesUnless.mapM {items : List β} {visit other : β → Compile γ}
    (each : ∀ item ∈ items, AgreesUnless stops (visit item) (other item)) :
    AgreesUnless stops (items.mapM visit) (items.mapM other) := by
  induction items with
  | nil => exact .refl _
  | cons item rest ih =>
    obtain ⟨first, each⟩ := List.forall_mem_cons.mp each
    rw [List.mapM_cons, List.mapM_cons]
    exact first.bind fun _ _ => (ih each).bind fun _ _ => .refl _

end Compile

open Compile

/-! ### Stacking without hidden children -/

section Stacking

variable {γ : Type} (view : ChildView γ)

/-- The child is drawn, or it is a mask. -/
def ChildView.counts (child : γ) : Bool := view.isMask child || view.visible child

def StackGroup.onlyVisible : StackGroup γ → StackGroup γ
  | .single child => .single child
  | .masked mask covered => .masked mask (covered.filter view.visible)

/-- The item without the hidden children that its mask covers. -/
def StackItem.onlyVisible : StackItem γ → StackItem γ
  | .single child css => .single child css
  | .masked mask covered css => .masked mask (covered.filter view.visible) css

private theorem splitAtMasks_filter (children : List γ) :
    splitAtMasks view.isMask (children.filter view.counts) =
      ((splitAtMasks view.isMask children).1.filter view.visible,
        (splitAtMasks view.isMask children).2.map
          fun entry => (entry.1, entry.2.filter view.visible)) := by
  induction children with
  | nil => rfl
  | cons child rest ih =>
    cases masks : view.isMask child with
    | true => simp [ChildView.counts, splitAtMasks, masks, ih]
    | false =>
      cases shown : view.visible child <;> simp [ChildView.counts, splitAtMasks, masks, shown, ih]

private theorem stackGroups_filter (children : List γ) :
    stackGroups view (children.filter view.counts) =
      (stackGroups view children).map (StackGroup.onlyVisible view) := by
  simp only [stackGroups, splitAtMasks_filter]
  simp [List.filter_map, Function.comp_def, StackGroup.onlyVisible]

private theorem itemsFrom_onlyVisible [Scalar α] (style : StackStyle α)
    (total index position : Nat) (groups : List (StackGroup γ)) :
    style.itemsFrom total index position (groups.map (StackGroup.onlyVisible view)) =
      (style.itemsFrom total index position groups).map (StackItem.onlyVisible view) := by
  induction groups generalizing index position with
  | nil => rfl
  | cons group rest ih =>
    cases group <;>
      simp [StackGroup.onlyVisible, StackItem.onlyVisible, StackStyle.itemsFrom, ih]

/-- Without its hidden children a container has the same items, which cover the same visible
children. -/
theorem stackItems_filter [Scalar α] (style : StackStyle α) (children : List γ) :
    stackItems style view (children.filter view.counts) =
      (stackItems style view children).map (StackItem.onlyVisible view) := by
  simp [stackItems, stackGroups_filter, itemsFrom_onlyVisible]

end Stacking

/-! ### Deleting a node -/

/-- The node is neither visible nor a mask. -/
structure Node.IsHidden (node : Node α) : Prop where
  invisible : node.props.visible = false
  unmasked : node.props.isMask = false

/-- The second list is the first one without the node, which stands in the list itself or
somewhere below it. -/
inductive Deletes (hidden : Node α) : List (Node α) → List (Node α) → Prop
  | here {rest} : Deletes hidden (hidden :: rest) rest
  | later {node rest remaining} :
      Deletes hidden rest remaining → Deletes hidden (node :: rest) (node :: remaining)
  | inside {props children remaining rest} :
      Deletes hidden children remaining →
      Deletes hidden (.mk props children :: rest) (.mk props remaining :: rest)

/-- The node can be asked for the inverse of its frame. -/
def NodeProps.Singular [Scalar α] (node : NodeProps α) : Prop :=
  ∃ frame, node.absoluteTransform = some frame ∧ frame.invert = none

/-- The node is deleted from the list itself, or the list keeps all that its nodes declare. -/
theorem Deletes.props_cases {hidden : Node α} {nodes remaining : List (Node α)}
    (deletes : Deletes hidden nodes remaining) :
    remaining.map Node.props = nodes.map Node.props ∨
      hidden ∈ nodes ∧ ∃ before after, nodes.map Node.props = before ++ hidden.props :: after ∧
        remaining.map Node.props = before ++ after := by
  induction deletes with
  | @here rest => exact .inr ⟨.head _, [], rest.map Node.props, rfl, rfl⟩
  | @later node rest remaining _ ih =>
    rcases ih with same | ⟨member, before, after, whole, left⟩
    · exact .inl (by rw [List.map_cons, List.map_cons, same])
    · exact .inr ⟨.tail _ member, node.props :: before, after, by simp [whole], by simp [left]⟩
  | inside => exact .inl rfl

theorem Deletes.ne_nil {hidden : Node α} {nodes remaining : List (Node α)}
    (deletes : Deletes hidden nodes remaining) : nodes ≠ [] := by
  intro none
  rw [none] at deletes
  cases deletes

theorem Deletes.nil_cases {hidden : Node α} {nodes : List (Node α)}
    (deletes : Deletes hidden nodes []) : nodes = [hidden] := by
  cases deletes
  rfl

/-- A hidden node takes no part in a flow, nor does what is below another node. -/
theorem Deletes.hasFlowChildren {hidden : Node α} {nodes remaining : List (Node α)}
    (deletes : Deletes hidden nodes remaining) (hides : hidden.IsHidden) :
    hasFlowChildren remaining = hasFlowChildren nodes := by
  induction deletes with
  | here => simp [Artboard.hasFlowChildren, hides.invisible]
  | later _ ih =>
    simp only [Artboard.hasFlowChildren, List.any_cons] at ih ⊢
    rw [ih]
  | inside => rfl

section Compiled

variable [Scalar α] {template : String} {stops : Prop}

/-- Two nodes that differ only below and are compiled alike. -/
structure Twin (α : Type) [Scalar α] (template : String) (stops : Prop) where
  first : Node α
  second : Node α
  props : second.props = first.props
  agrees : ∀ place, AgreesUnless stops (compileNode template first place)
    (compileNode template second place)

def Twin.same (node : Node α) : Twin α template stops where
  first := node
  second := node
  props := rfl
  agrees := fun _ => .refl _

private theorem compileItem_onlyVisible (state : ContainerState α) (item : StackItem (Child α)) :
    compileItem template state (item.onlyVisible Child.view) = compileItem template state item := by
  cases item with
  | single => rfl
  | masked mask covered css =>
    simp only [StackItem.onlyVisible, compileItem, compileMasked, Child.view, List.filter_filter,
      Bool.and_self]

/-- The items of twins are compiled alike. -/
private theorem agrees_compileItem (state : ContainerState α)
    (item : StackItem (Twin α template stops)) :
    AgreesUnless stops
      (compileItem template state (item.map fun twin => Child.ofNode template twin.first))
      (compileItem template state (item.map fun twin => Child.ofNode template twin.second)) := by
  cases item with
  | single twin css =>
    simp only [StackItem.map, compileItem, Child.ofNode, twin.props]
    exact twin.agrees _
  | masked mask covered css =>
    simp only [StackItem.map, compileItem, compileMasked, Child.ofNode, mask.props]
    split
    · exact .refl _
    next absolute known =>
      refine (AgreesUnless.refl _).bind fun declared _ => AgreesUnless.bind ?_ fun _ _ => .refl _
      rw [List.filter_map, List.filter_map, List.mapM_map, List.mapM_map]
      simp only [Function.comp_def, Twin.props]
      exact .mapM fun twin _ => twin.agrees _

/-- Children are compiled as those are that are visible or masks. -/
private theorem mapM_stackItems_counts (state : ContainerState α) (style : StackStyle α)
    (nodes : List (Node α)) :
    (stackItems style Child.view (childrenOf template nodes)).mapM (compileItem template state) =
      (stackItems style Child.view (childrenOf template (nodes.filter Node.view.counts))).mapM
        (compileItem template state) := by
  have counts : (childrenOf template nodes).filter Child.view.counts =
      childrenOf template (nodes.filter Node.view.counts) := by
    rw [childrenOf_eq_map, childrenOf_eq_map, List.filter_map]
    rfl
  rw [← counts, stackItems_filter, List.mapM_map]
  exact congrArg (List.mapM · _) (funext fun item => (compileItem_onlyVisible state item).symm)

/-- The children that count are twins, one by one and in order. -/
def Twinned (template : String) (stops : Prop) (nodes remaining : List (Node α)) : Prop :=
  ∃ twins : List (Twin α template stops),
    nodes.filter Node.view.counts = twins.map (·.first) ∧
      remaining.filter Node.view.counts = twins.map (·.second)

theorem Twinned.refl (template : String) (stops : Prop) (nodes : List (Node α)) :
    Twinned template stops nodes nodes :=
  ⟨(nodes.filter Node.view.counts).map Twin.same, by simp [Function.comp_def, Twin.same],
    by simp [Function.comp_def, Twin.same]⟩

theorem Twinned.cons {nodes remaining : List (Node α)} (twin : Twin α template stops)
    (rest : Twinned template stops nodes remaining) :
    Twinned template stops (twin.first :: nodes) (twin.second :: remaining) := by
  obtain ⟨twins, first, second⟩ := rest
  have same : Node.view.counts twin.second = Node.view.counts twin.first := by
    simp [ChildView.counts, Node.view, twin.props]
  cases counts : Node.view.counts twin.first with
  | true =>
    refine ⟨twin :: twins, ?_, ?_⟩
    · rw [List.filter_cons_of_pos counts, first, List.map_cons]
    · rw [List.filter_cons_of_pos (same.trans counts), second, List.map_cons]
  | false =>
    refine ⟨twins, ?_, ?_⟩
    · rw [List.filter_cons_of_neg (by simp [counts]), first]
    · rw [List.filter_cons_of_neg (by simp [same, counts]), second]

/-- The items of children that are twins are compiled alike. -/
private theorem Twinned.agrees_items {nodes remaining : List (Node α)}
    (twinned : Twinned template stops nodes remaining) (style : StackStyle α)
    (state : ContainerState α) :
    AgreesUnless stops
      ((stackItems style Child.view (childrenOf template nodes)).mapM (compileItem template state))
      ((stackItems style Child.view (childrenOf template remaining)).mapM
        (compileItem template state)) := by
  obtain ⟨twins, first, second⟩ := twinned
  rw [mapM_stackItems_counts, mapM_stackItems_counts state style remaining, first, second,
    childrenOf_eq_map, childrenOf_eq_map, List.map_map, List.map_map, stackItems_map,
    stackItems_map, List.mapM_map, List.mapM_map]
  -- Stacking looks at the properties of twins, which are the same.
  have views : Child.view.comap (Child.ofNode template ∘ fun twin : Twin α template stops =>
      twin.second) = Child.view.comap (Child.ofNode template ∘ fun twin => twin.first) := by
    simp [ChildView.comap, Child.view, Child.ofNode, Twin.props]
  rw [views]
  exact .mapM fun item _ => agrees_compileItem state item

/-- A frame whose box is compiled refuses what is below it only if it is singular. -/
private theorem singular_of_compileBox {props : NodeProps α} {flows : Bool} {place : Surroundings α}
    {box : SceneBox α} (boxed : Returns (compileBox template props flows place) box)
    {fault : Fault} (failed : ContainerState.ofNode props place.inherited = .error fault) :
    props.Singular := by
  obtain ⟨-, layout, style, _, computed, styled, -, -⟩ := compileBox_cases boxed
  obtain ⟨_, declared, _, -, known, -, -⟩ := BoxStyle.ofNode_cases styled
  unfold ContainerState.ofNode at failed
  split at failed
  next missing =>
    -- Without a transform there would be no layout either.
    simp [Layout.compute, missing] at computed
  next frame present =>
    split at failed
    next singular => exact ⟨frame, present, singular⟩
    next =>
      simp only [passedShadows, known] at failed
      split at failed <;> cases failed

/-- Where the children of a frame are twins, what is below it is compiled alike. A frame that is
left without children no longer asks for its inverse. -/
private theorem agrees_compileChildren {props : NodeProps α} {flows : Bool}
    {place : Surroundings α} {box : SceneBox α} {hidden : Node α} {nodes remaining : List (Node α)}
    (boxed : Returns (compileBox template props flows place) box)
    (hides : hidden.IsHidden) (deletes : Deletes hidden nodes remaining)
    (emptied : nodes = [hidden] → props.Singular → stops)
    (twinned : Twinned template stops nodes remaining) :
    AgreesUnless stops
      (compileChildren template props place.inherited (childrenOf template nodes))
      (compileChildren template props place.inherited (childrenOf template remaining)) := by
  have inhabited : (childrenOf template nodes).isEmpty = false := by cases deletes <;> rfl
  rw [compileChildren, inhabited]
  cases remaining with
  | cons child rest => exact (AgreesUnless.refl _).bind fun state _ => twinned.agrees_items _ state
  | nil =>
    obtain rfl := deletes.nil_cases
    intro before
    cases entered : ContainerState.ofNode props place.inherited with
    | error fault => exact .inr ⟨emptied rfl (singular_of_compileBox boxed entered), fault, rfl⟩
    | ok state =>
      -- The node alone makes no item, so nothing is compiled below the frame.
      have none : [hidden].filter Node.view.counts = [] := by
        simp [ChildView.counts, Node.view, hides.invisible, hides.unmasked]
      left
      change ((stackItems _ Child.view (childrenOf template [hidden])).mapM
        (compileItem template state)).outcome before = _
      rw [mapM_stackItems_counts, none]
      rfl

/-- What a container is left with is twinned with what it had, if a fault may stop it where it is
singular and loses its only child. -/
theorem twinned_of_deletes (template : String) {hidden : Node α} (hides : hidden.IsHidden)
    {nodes remaining : List (Node α)} (deletes : Deletes hidden nodes remaining)
    (emptied : ∀ container ∈ Node.preorders nodes, container.children = [hidden] →
      container.props.Singular → stops) :
    Twinned template stops nodes remaining := by
  induction deletes with
  | @here rest =>
    obtain ⟨twins, first, second⟩ := Twinned.refl template stops rest
    refine ⟨twins, ?_, second⟩
    rw [List.filter_cons_of_neg (by
      simp [ChildView.counts, Node.view, hides.invisible, hides.unmasked]), first]
  | @later node rest remaining deletes ih =>
    have rest := ih fun container member =>
      emptied container (by simp [Node.preorders, member])
    exact rest.cons (Twin.same node)
  | @inside props children remaining rest deletes ih =>
    have below := ih fun container member =>
      emptied container (by simp [Node.preorders, Node.preorder, member])
    have alone := emptied (.mk props children) (by simp [Node.preorders, Node.preorder])
    have agrees (place : Surroundings α) : AgreesUnless stops
        (compileNode template (.mk props children) place)
        (compileNode template (.mk props remaining) place) := by
      rw [compileNode, compileNode, deletes.hasFlowChildren hides]
      refine (AgreesUnless.refl _).bind fun box boxed => ?_
      split
      · exact (agrees_compileChildren boxed hides deletes alone below).bind fun _ _ => .refl _
      · exact .refl _
    exact Twinned.cons
      { first := .mk props children, second := .mk props remaining, props := rfl, agrees }
      (Twinned.refl template stops rest)

/-- The top-level nodes of a composition without a hidden node are compiled as they were. -/
theorem agrees_compileTopLevel (template : String) (stops : Prop) {hidden : Node α}
    (hides : hidden.IsHidden) {nodes remaining : List (Node α)}
    (deletes : Deletes hidden nodes remaining)
    (emptied : ∀ container ∈ Node.preorders nodes, container.children = [hidden] →
      container.props.Singular → stops) (origin : Point α) :
    AgreesUnless stops (compileTopLevel template origin nodes)
      (compileTopLevel template origin remaining) := by
  obtain ⟨twins, first, second⟩ :=
    twinned_of_deletes template hides deletes emptied
  have shown (nodes : List (Node α)) : nodes.filter (·.props.visible) =
      (nodes.filter Node.view.counts).filter (·.props.visible) := by
    rw [List.filter_filter]
    exact List.filter_congr fun node _ => by
      cases visible : node.props.visible <;> simp [ChildView.counts, Node.view, visible]
  rw [compileTopLevel, compileTopLevel, shown nodes, shown remaining, first, second,
    List.filter_map, List.filter_map, List.mapM_map, List.mapM_map]
  simp only [Function.comp_def, Twin.props]
  exact .mapM fun twin _ => twin.agrees _

end Compiled

/-! ### Compositions without a hidden node -/

section Bounds

/-- The nodes are asked for their bounds in order, and the first one without any is refused. -/
theorem boundsFrom_cases (nodes : List (Node α)) (index : Nat) :
    ((nodes.map Node.props).find? (·.renderBounds.isNone) = none ∧
      ∃ rects, boundsFrom index nodes = .ok rects) ∨
    ∃ props position, (nodes.map Node.props).find? (·.renderBounds.isNone) = some props ∧
      boundsFrom index nodes = .error (.violation (.missingTopLevelBounds position props.id)) := by
  induction nodes generalizing index with
  | nil => exact .inl ⟨rfl, [], rfl⟩
  | cons node rest ih =>
    rw [List.map_cons, boundsFrom]
    cases known : node.props.renderBounds with
    | none => exact .inr ⟨node.props, index, by simp [known], rfl⟩
    | some bounds =>
      rw [List.find?_cons_of_neg (by simp [known])]
      refine (ih (index + 1)).imp ?_ ?_
      · rintro ⟨all, rects, found⟩
        exact ⟨all, bounds :: rects, by rw [found]; rfl⟩
      · rintro ⟨props, position, first, failed⟩
        exact ⟨props, position, first, by rw [failed]; rfl⟩

variable [Scalar α]

/-- The union exists where every node has bounds; else it names the first one without any. -/
theorem renderUnion_cases (nodes : List (Node α)) :
    ((nodes.map Node.props).find? (·.renderBounds.isNone) = none ∧
      ∃ union, renderUnion nodes = .ok union) ∨
    ∃ props position, (nodes.map Node.props).find? (·.renderBounds.isNone) = some props ∧
      renderUnion nodes = .error (.violation (.missingTopLevelBounds position props.id)) := by
  rw [renderUnion]
  refine (boundsFrom_cases nodes 0).imp ?_ ?_
  · rintro ⟨all, rects, found⟩
    refine ⟨all, ?_⟩
    rw [found]
    cases rects <;> exact ⟨_, rfl⟩
  · rintro ⟨props, position, first, failed⟩
    exact ⟨props, position, first, by rw [failed]; rfl⟩

/-- Fewer nodes have a union where more have one. -/
theorem Deletes.renderUnion_returns {hidden : Node α} {nodes remaining : List (Node α)}
    (deletes : Deletes hidden nodes remaining) {union : Rect α}
    (joined : renderUnion nodes = .ok union) : ∃ rest, renderUnion remaining = .ok rest := by
  rcases renderUnion_cases nodes with ⟨all, -⟩ | ⟨_, _, -, failed⟩
  case inr =>
    rw [failed] at joined
    cases joined
  have bounded : (remaining.map Node.props).find? (·.renderBounds.isNone) = none := by
    rcases deletes.props_cases with same | ⟨-, before, after, whole, left⟩
    · rw [same, all]
    · rw [whole] at all
      rw [left]
      simp_all [List.find?_append]
  rcases renderUnion_cases remaining with ⟨-, returned⟩ | ⟨_, _, found, -⟩
  · exact returned
  · rw [bounded] at found
    cases found

end Bounds

/-- The scene of a composition that is not blank. -/
def sceneOf [Scalar α] (provider : FontProvider) (composition : Composition α)
    (nodes : List (SceneNode α)) (rules : PseudoRules) (union : Rect α) : CompiledScene α where
  nodes
  rules
  union
  fonts := fontsOf composition
  fontUrl := fontServiceUrl (fontsOf composition)
  providedUrls := providedUrls provider (fontsOf composition)
  images := (forestImages composition.children).foldl addNew []
  svgFiles := ((SceneNode.preorders nodes).filterMap SceneBox.svgFile).foldl addNew []
  bounds := composition.bounds.map fun size => ⟨0.0, 0.0, size.width, size.height⟩

section Composed

variable [Scalar α] {template : String} {provider : FontProvider} {composition : Composition α}

/-- A composition with nodes and an origin has the scene that its top-level nodes, the rules found
for them and their union make. -/
theorem compileComposition_of_inhabited (template : String) (provider : FontProvider)
    (composition : Composition α) {origin : Point α} (inhabited : composition.children ≠ [])
    (known : composition.absOrigin = some origin) :
    compileComposition template provider composition =
      ((compileTopLevel template origin composition.children).outcome .empty).1 >>= fun nodes =>
        (renderUnion composition.children).map (sceneOf provider composition nodes
          ((compileTopLevel template origin composition.children).outcome .empty).2) := by
  have blank : composition.children.isEmpty = false := by simpa using inhabited
  simp only [compileComposition, blank, known, Bool.false_eq_true, if_false]
  cases run : StateT.run (ExceptT.run (compileTopLevel template origin composition.children))
      PseudoRules.empty with
  | mk ended rules =>
    have outcome : (compileTopLevel template origin composition.children).outcome .empty =
        (ended, rules) := run
    rw [outcome]
    cases ended with
    | error fault => rfl
    | ok nodes => cases renderUnion composition.children <;> rfl

theorem compileComposition_of_blank (template : String) (provider : FontProvider)
    (blank : composition.children = []) :
    compileComposition template provider composition = .ok
      (.blank (composition.bounds.map fun size => ⟨0.0, 0.0, size.width, size.height⟩)) := by
  rw [compileComposition, blank]
  rfl

/-- What the top-level nodes are compiled to, the scene has. -/
theorem compileComposition_returns (provider : FontProvider) (composition : Composition α)
    {origin : Point α} {nodes : List (SceneNode α)} {rules : PseudoRules} {union : Rect α}
    (known : composition.absOrigin = some origin)
    (run : Runs (compileTopLevel template origin composition.children) .empty nodes rules)
    (joined : renderUnion composition.children = .ok union) :
    ∃ scene, compileComposition template provider composition = .ok scene ∧
      scene.nodes = nodes ∧ scene.rules = rules := by
  by_cases blank : composition.children = []
  · rw [blank] at run
    obtain ⟨rfl, rfl⟩ := runs_pure_iff.mp run
    exact ⟨_, compileComposition_of_blank template provider blank, rfl, rfl⟩
  · refine ⟨sceneOf provider composition nodes rules union, ?_, rfl, rfl⟩
    rw [compileComposition_of_inhabited template provider composition blank known, run, joined]
    rfl

/-- A drawing shows the boxes of a scene and its rules, and nothing else of it. -/
theorem renderScene_congr {scene other : CompiledScene α} (nodes : other.nodes = scene.nodes)
    (rules : other.rules = scene.rules) (mode : Render.Mode) (settings : Settings) :
    Render.renderScene mode settings other = Render.renderScene mode settings scene := by
  simp only [Render.renderScene, Render.contentCss, nodes, rules]

/-- Without a hidden node a composition that compiles has the same boxes and the same rules, and
in every mode the same drawing. -/
theorem hidden_nodes_leave_no_trace {hidden : Node α} {children : List (Node α)}
    {scene : CompiledScene α} (hides : hidden.IsHidden)
    (deletes : Deletes hidden composition.children children)
    (compiled : compileComposition template provider composition = .ok scene) :
    ∃ reduced, compileComposition template provider { composition with children } = .ok reduced ∧
      reduced.nodes = scene.nodes ∧ reduced.rules = scene.rules ∧
      ∀ mode settings, Render.renderScene mode settings reduced =
        Render.renderScene mode settings scene := by
  rcases compileComposition_cases compiled with ⟨none, -⟩ | ⟨origin, known, run⟩
  · exact absurd none deletes.ne_nil
  -- The run of the original did not stop, so the other one ends as it did.
  have same : Runs (compileTopLevel template origin children) .empty scene.nodes scene.rules := by
    rcases agrees_compileTopLevel template True hides deletes (fun _ _ _ _ => trivial) origin
      .empty with same | ⟨-, fault, stopped⟩
    · exact same.symm.trans run
    · rw [run] at stopped
      cases stopped
  have joined : ∃ union, renderUnion composition.children = .ok union := by
    rw [compileComposition_of_inhabited template provider composition deletes.ne_nil known, run]
      at compiled
    cases found : renderUnion composition.children with
    | ok union => exact ⟨union, rfl⟩
    | error fault =>
      rw [found] at compiled
      cases compiled
  obtain ⟨union, joined⟩ := joined
  obtain ⟨rest, left⟩ := deletes.renderUnion_returns joined
  obtain ⟨reduced, again, nodes, rules⟩ :=
    compileComposition_returns provider { composition with children } known same left
  exact ⟨reduced, again, nodes, rules, renderScene_congr nodes rules⟩

end Composed

/-- A hidden frame with something visible in it. -/
def veiled : Node Rat :=
  .mk { plainProps "veiled" "FRAME" ⟨1, 0, 0, 1, 0, 0⟩ with visible := false }
    [.mk (plainProps "inside" "RECTANGLE" ⟨1, 0, 0, 1, 0, 0⟩) []]

/-- The children of a row that overlap, where the hidden one comes first. -/
def overlapping : List (Node Rat) :=
  [veiled, .mk (plainProps "first" "RECTANGLE" ⟨1, 0, 0, 1, 0, 0⟩) [],
   .mk (plainProps "second" "RECTANGLE" ⟨1, 0, 0, 1, 8, 0⟩) []]

def overlappingRow (children : List (Node Rat)) : Node Rat :=
  .mk { plainProps "row" "FRAME" ⟨1, 0, 0, 1, 0, 0⟩ with
        layoutMode := .horizontal, itemSpacing := -2 } children

def overlappingSketch : Composition Rat where
  name := "overlapping"
  absOrigin := some ⟨0, 0⟩
  bounds := none
  children := [overlappingRow overlapping]

theorem overlappingSketch_without_veiled :
    ∃ scene reduced, compileComposition "" (fun _ => none) overlappingSketch = .ok scene ∧
      compileComposition "" (fun _ => none)
        { overlappingSketch with children := [overlappingRow overlapping.tail] } = .ok reduced ∧
      (SceneNode.preorders reduced.nodes).map (·.declarations.get? "margin-left") =
        [none, none, some "-2px"] ∧
      reduced.nodes = scene.nodes ∧ reduced.rules = scene.rules ∧
      ∀ mode settings, Render.renderScene mode settings reduced =
        Render.renderScene mode settings scene := by
  obtain ⟨scene, compiled, margins⟩ := Except.exists_of_any
    (fun scene => (SceneNode.preorders scene.nodes).map (·.declarations.get? "margin-left") ==
      [none, none, some "-2px"])
    (show (compileComposition "" (fun _ => none) overlappingSketch).toOption.any _ = true by
      decide +kernel)
  have deletes : Deletes veiled overlappingSketch.children [overlappingRow overlapping.tail] :=
    .inside .here
  obtain ⟨reduced, again, nodes, rules, drawn⟩ :=
    hidden_nodes_leave_no_trace ⟨rfl, rfl⟩ deletes compiled
  exact ⟨scene, reduced, compiled, again, by rw [nodes]; exact eq_of_beq margins, nodes, rules,
    drawn⟩

end Artboard
