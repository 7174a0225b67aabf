import Artboard.Proofs.Scene.Compilation

/-!
# Names of nodes

The compiler takes the name of a node into its box and looks at it nowhere else:
compiling without names is compiling and then dropping the names, with the same
rules and the same faults.
-/
namespace Artboard

variable {α : Type}

/-! ### Without names -/

def NodeProps.unnamed (props : NodeProps α) : NodeProps α := { props with name := "" }

mutual

/-- A node without its name and those of the nodes below it. -/
def Node.unnamed : Node α → Node α
  | .mk props children => .mk props.unnamed (unnamedAll children)

def Node.unnamedAll : List (Node α) → List (Node α)
  | [] => []
  | node :: rest => node.unnamed :: Node.unnamedAll rest

end

def Composition.unnamed (composition : Composition α) : Composition α :=
  { composition with children := Node.unnamedAll composition.children }

def SceneBox.unnamed (box : SceneBox α) : SceneBox α := { box with name := "" }

mutual

def SceneNode.unnamed : SceneNode α → SceneNode α
  | .mk box children => .mk box.unnamed (unnamedAll children)

def SceneNode.unnamedAll : List (SceneNode α) → List (SceneNode α)
  | [] => []
  | node :: rest => node.unnamed :: SceneNode.unnamedAll rest

end

theorem Node.unnamedAll_eq_map (nodes : List (Node α)) : unnamedAll nodes = nodes.map unnamed := by
  induction nodes with
  | nil => rfl
  | cons node rest ih => rw [unnamedAll, ih, List.map_cons]

theorem SceneNode.unnamedAll_eq_map (nodes : List (SceneNode α)) :
    unnamedAll nodes = nodes.map unnamed := by
  induction nodes with
  | nil => rfl
  | cons node rest ih => rw [unnamedAll, ih, List.map_cons]

@[simp]
theorem Node.props_unnamed (node : Node α) : node.unnamed.props = node.props.unnamed := by
  cases node
  rfl

/-- The boxes of a tree without names are those of the tree, without their names. -/
theorem SceneNode.preorders_unnamedAll (nodes : List (SceneNode α)) :
    preorders (unnamedAll nodes) = (preorders nodes).map SceneBox.unnamed := by
  have each (node : SceneNode α) : node.unnamed.preorder = node.preorder.map SceneBox.unnamed := by
    induction node using SceneNode.memInduction with
    | step box children ih =>
      rw [unnamed, preorder, preorder, List.map_cons]
      congr 1
      induction children with
      | nil => rfl
      | cons child rest inner =>
        obtain ⟨first, others⟩ := List.forall_mem_cons.mp ih
        rw [unnamedAll, preorders, preorders, first, inner others, List.map_append]
  induction nodes with
  | nil => rfl
  | cons node rest ih => rw [unnamedAll, preorders, preorders, each, ih, List.map_append]

@[simp]
theorem NodeProps.unnamed_unnamed (props : NodeProps α) : props.unnamed.unnamed = props.unnamed :=
  rfl

theorem SceneNode.unnamed_unnamed (node : SceneNode α) : node.unnamed.unnamed = node.unnamed := by
  induction node using SceneNode.memInduction with
  | step box children ih =>
    simp only [unnamed, unnamedAll_eq_map, List.map_map]
    exact congrArg _ (List.map_congr_left ih)

theorem SceneNode.unnamed_inj {box other : SceneBox α} {children others : List (SceneNode α)}
    (same : (SceneNode.mk other others).unnamed = (SceneNode.mk box children).unnamed) :
    other.unnamed = box.unnamed ∧ unnamedAll others = unnamedAll children := by
  simpa [unnamed] using same

theorem hasFlowChildren_unnamedAll (nodes : List (Node α)) :
    hasFlowChildren (Node.unnamedAll nodes) = hasFlowChildren nodes := by
  rw [Node.unnamedAll_eq_map]
  simp [hasFlowChildren, Function.comp_def, NodeProps.unnamed]

/-! ### What is collected from trees -/

/-- What is collected from trees is the same without names where it is from each of them. -/
private theorem collected_unnamedAll {β : Type} {tree : Node α → List β}
    {forest : List (Node α) → List β}
    (cons : ∀ node rest, forest (node :: rest) = tree node ++ forest rest) {nodes : List (Node α)}
    (each : ∀ node ∈ nodes, tree node.unnamed = tree node) :
    forest (Node.unnamedAll nodes) = forest nodes := by
  induction nodes with
  | nil => rfl
  | cons node rest ih =>
    obtain ⟨first, others⟩ := List.forall_mem_cons.mp each
    rw [Node.unnamedAll, cons, cons, first, ih others]

private theorem forestSegments_unnamedAll (nodes : List (Node α)) :
    forestSegments (Node.unnamedAll nodes) = forestSegments nodes := by
  have each (node : Node α) : treeSegments node.unnamed = treeSegments node := by
    induction node using Node.memInduction with
    | step props children ih =>
      rw [Node.unnamed, treeSegments, treeSegments,
        collected_unnamedAll (fun _ _ => forestSegments.eq_2 _ _) ih]
      rfl
  exact collected_unnamedAll (fun _ _ => forestSegments.eq_2 _ _) fun node _ => each node

private theorem forestImages_unnamedAll (nodes : List (Node α)) :
    forestImages (Node.unnamedAll nodes) = forestImages nodes := by
  have each (node : Node α) : treeImages node.unnamed = treeImages node := by
    induction node using Node.memInduction with
    | step props children ih =>
      rw [Node.unnamed, treeImages, treeImages,
        collected_unnamedAll (fun _ _ => forestImages.eq_2 _ _) ih]
      rfl
  exact collected_unnamedAll (fun _ _ => forestImages.eq_2 _ _) fun node _ => each node

private theorem boundsFrom_unnamedAll (index : Nat) (nodes : List (Node α)) :
    boundsFrom index (Node.unnamedAll nodes) = boundsFrom index nodes := by
  induction nodes generalizing index with
  | nil => rfl
  | cons node rest ih =>
    rw [Node.unnamedAll, boundsFrom, boundsFrom, ih, Node.props_unnamed]
    rfl

private theorem svgFiles_unnamedAll (nodes : List (SceneNode α)) :
    (SceneNode.preorders (SceneNode.unnamedAll nodes)).filterMap SceneBox.svgFile =
      (SceneNode.preorders nodes).filterMap SceneBox.svgFile := by
  rw [SceneNode.preorders_unnamedAll, List.filterMap_map]
  rfl

/-! ### Computations -/

/-- Compiling the child and then dropping the names. -/
def Child.unnamed (child : Child α) : Child α where
  props := child.props.unnamed
  compile := fun place => SceneNode.unnamed <$> child.compile place

/-- What follows two computations is the same where it asks only for what they agree on. -/
private theorem bind_eq_of_map_eq {β γ δ : Type} {first second : Compile β} {f : β → γ}
    (agree : f <$> first = f <$> second) (next : γ → Compile δ) :
    (first >>= fun value => next (f value)) = second >>= fun value => next (f value) := by
  rw [← bind_map_left, agree, bind_map_left]

private theorem mapM_unnamed {β : Type} (items : List β) (visit : β → Compile (SceneNode α)) :
    SceneNode.unnamedAll <$> items.mapM visit =
      items.mapM fun item => SceneNode.unnamed <$> visit item := by
  induction items with
  | nil => simp [SceneNode.unnamedAll]
  | cons item rest ih =>
    simp only [List.mapM_cons, map_bind, map_pure, bind_map_left, SceneNode.unnamedAll, ← ih]

private theorem compile_unnamed (child : Child α) (place : Surroundings α) :
    SceneNode.unnamed <$> child.unnamed.compile place =
      SceneNode.unnamed <$> child.compile place := by
  simp only [Child.unnamed, Functor.map_map, SceneNode.unnamed_unnamed]

/-! ### Boxes -/

section Compiled

variable [Scalar α] (template : String)

/-- A box is compiled from everything but the name of its node. -/
theorem compileBox_unnamed (node : NodeProps α) (flows : Bool) (place : Surroundings α) :
    SceneBox.unnamed <$> compileBox template node.unnamed flows place =
      SceneBox.unnamed <$> compileBox template node flows place := by
  have layout : Layout.compute node.unnamed flows place.frame place.flow =
      Layout.compute node flows place.frame place.flow := rfl
  have style : BoxStyle.ofNode template node.unnamed (NodeKind.ofNode node.unnamed)
      node.unnamed.style.isBareHolder place.inherited = BoxStyle.ofNode template node
        (NodeKind.ofNode node) node.style.isBareHolder place.inherited := rfl
  have content (flex : Bool) : contentOf node.unnamed (NodeKind.ofNode node.unnamed) flex =
      contentOf node (NodeKind.ofNode node) flex := rfl
  have box (layout : Layout α) (style : BoxStyle) (content : Content) :
      (nodeBox node.unnamed place layout style content).unnamed =
        (nodeBox node place layout style content).unnamed := rfl
  have visible : node.unnamed.visible = node.visible := rfl
  have id : node.unnamed.id = node.id := rfl
  unfold compileBox
  dsimp only
  rw [visible, id, layout, style]
  -- What comes after the style differs in the name of the box alone, with and without a rule.
  split <;> simp only [map_bind]
  · refine bind_congr fun _ => bind_congr fun _ => bind_congr fun style => ?_
    cases style.pseudo <;> simp only [map_bind, map_pure, content, box]
  · refine bind_congr fun _ => bind_congr fun style => ?_
    cases style.pseudo <;> simp only [map_bind, map_pure, content, box]

/-! ### Nodes -/

private theorem compileMasked_unnamed (state : ContainerState α) (mask : Child α)
    (covered : List (Child α)) (itemCss : Css.Declarations) :
    SceneNode.unnamed <$> compileMasked template state mask.unnamed (covered.map Child.unnamed)
        itemCss =
      SceneNode.unnamed <$> compileMasked template state mask covered itemCss := by
  have transform : mask.unnamed.props.absoluteTransform = mask.props.absoluteTransform := rfl
  have css : maskBoxCss template mask.unnamed.props itemCss =
      maskBoxCss template mask.props itemCss := rfl
  unfold compileMasked
  rw [transform]
  cases mask.props.absoluteTransform with
  | none => rfl
  | some absolute =>
    have children (place : Surroundings α) :
        SceneNode.unnamedAll <$> ((covered.map Child.unnamed).filter (·.props.visible)).mapM
            (fun child => child.compile place) =
          SceneNode.unnamedAll <$> (covered.filter (·.props.visible)).mapM
            (fun child => child.compile place) := by
      have visible : ((·.props.visible) ∘ Child.unnamed) =
          fun child : Child α => child.props.visible := rfl
      rw [List.filter_map, visible, mapM_unnamed, mapM_unnamed, List.mapM_map]
      simp only [compile_unnamed, Function.comp_def]
    dsimp only
    rw [css]
    simp only [map_bind, map_pure, SceneNode.unnamed]
    refine bind_congr fun declared => ?_
    -- The box of a mask without a name is called alike, and its name is dropped.
    exact bind_eq_of_map_eq (children _) fun below => pure (SceneNode.mk _ below)

private theorem compileItem_unnamed (state : ContainerState α) (item : StackItem (Child α)) :
    SceneNode.unnamed <$> compileItem template state (item.map Child.unnamed) =
      SceneNode.unnamed <$> compileItem template state item := by
  cases item with
  | single child css => exact compile_unnamed child _
  | masked mask covered css => exact compileMasked_unnamed template state mask covered css

private theorem compileChildren_unnamed (node : NodeProps α) (inherited : List (Shadow α))
    (children : List (Child α)) :
    SceneNode.unnamedAll <$> compileChildren template node.unnamed inherited
        (children.map Child.unnamed) =
      SceneNode.unnamedAll <$> compileChildren template node inherited children := by
  have state : ContainerState.ofNode node.unnamed inherited =
      ContainerState.ofNode node inherited := rfl
  have items : stackItems (.ofNode node.unnamed) Child.view (children.map Child.unnamed) =
      (stackItems (.ofNode node) Child.view children).map (StackItem.map Child.unnamed) :=
    stackItems_map _ _ _ _
  unfold compileChildren
  rw [state, items, List.isEmpty_map]
  split
  · rfl
  · simp only [map_bind, mapM_unnamed, List.mapM_map, compileItem_unnamed, Function.comp_def]

/-- What is compiled with names dropped afterwards, from the box and what is below it. -/
private theorem map_unnamed_compileNode (props : NodeProps α) (children : List (Node α))
    (place : Surroundings α) :
    SceneNode.unnamed <$> compileNode template (.mk props children) place =
      (SceneBox.unnamed <$> compileBox template props (hasFlowChildren children) place) >>=
        fun box => if box.kind = .frame then
            SceneNode.mk box <$> SceneNode.unnamedAll <$> compileChildren template props
              place.inherited (childrenOf template children)
          else pure (.mk box []) := by
  rw [compileNode, map_bind, bind_map_left]
  refine bind_congr fun box => ?_
  have kind : box.unnamed.kind = box.kind := rfl
  rw [kind]
  split
  · simp only [map_bind, map_pure, SceneNode.unnamed, Functor.map_map]
    rfl
  · simp only [map_pure, SceneNode.unnamed, SceneNode.unnamedAll]

/-- Compiling a node without names is compiling it and dropping the names. -/
theorem compileNode_unnamed (node : Node α) : ∀ place : Surroundings α,
    SceneNode.unnamed <$> compileNode template node.unnamed place =
      SceneNode.unnamed <$> compileNode template node place := by
  induction node using Node.memInduction with
  | step props children ih =>
    intro place
    have alike : (childrenOf template (Node.unnamedAll children)).map Child.unnamed =
        (childrenOf template children).map Child.unnamed := by
      rw [childrenOf_eq_map, childrenOf_eq_map, Node.unnamedAll_eq_map, List.map_map,
        List.map_map, List.map_map]
      refine List.map_congr_left fun child member => ?_
      simp only [Function.comp_apply, Child.unnamed, Child.ofNode, Node.props_unnamed,
        NodeProps.unnamed_unnamed, ih child member]
    rw [Node.unnamed, map_unnamed_compileNode, map_unnamed_compileNode,
      hasFlowChildren_unnamedAll, compileBox_unnamed, ← compileChildren_unnamed template props,
      ← alike, ← compileChildren_unnamed template props.unnamed]
    rfl

/-! ### Compositions -/

theorem compileTopLevel_unnamed (origin : Point α) (nodes : List (Node α)) :
    SceneNode.unnamedAll <$> compileTopLevel template origin (Node.unnamedAll nodes) =
      SceneNode.unnamedAll <$> compileTopLevel template origin nodes := by
  have visible : ((·.props.visible) ∘ Node.unnamed) = fun node : Node α => node.props.visible := by
    funext node
    simp [NodeProps.unnamed]
  rw [compileTopLevel, compileTopLevel, Node.unnamedAll_eq_map, List.filter_map, visible,
    mapM_unnamed, mapM_unnamed, List.mapM_map]
  simp only [Function.comp_def, compileNode_unnamed]

private theorem renderUnion_unnamedAll (nodes : List (Node α)) :
    renderUnion (Node.unnamedAll nodes) = renderUnion nodes := by
  rw [renderUnion, renderUnion, boundsFrom_unnamedAll]

/-- A scene without the names of its boxes. -/
def CompiledScene.unnamed (scene : CompiledScene α) : CompiledScene α :=
  { scene with nodes := SceneNode.unnamedAll scene.nodes }

private theorem outcome_map {β γ : Type} (f : β → γ) (action : Compile β) (before : PseudoRules) :
    (f <$> action).outcome before =
      ((action.outcome before).1.map f, (action.outcome before).2) := by
  rw [map_eq_pure_bind, Compile.outcome_bind]
  cases action.outcome before with
  | mk first between => cases first <;> rfl

/-- Both traversals leave the same rules, and the same nodes up to names or the same fault. -/
private theorem outcome_topLevel (origin : Point α) (nodes : List (Node α))
    (before : PseudoRules) :
    ∃ ended ended' rules,
      (compileTopLevel template origin (Node.unnamedAll nodes)).run.run before = (ended, rules) ∧
      (compileTopLevel template origin nodes).run.run before = (ended', rules) ∧
      ended.map SceneNode.unnamedAll = ended'.map SceneNode.unnamedAll := by
  have runs := congrArg (Compile.outcome · before)
    (compileTopLevel_unnamed template origin nodes)
  rw [outcome_map, outcome_map] at runs
  obtain ⟨same, rules⟩ := Prod.mk.inj runs
  exact ⟨_, _, _, rfl, Prod.ext rfl rules.symm, same⟩

/-- Compiling a composition without names is compiling it and dropping the names. -/
theorem compileComposition_unnamed (provider : FontProvider) (composition : Composition α) :
    (compileComposition template provider composition.unnamed).map CompiledScene.unnamed =
      (compileComposition template provider composition).map CompiledScene.unnamed := by
  have bounds : composition.unnamed.bounds = composition.bounds := rfl
  have origin : composition.unnamed.absOrigin = composition.absOrigin := rfl
  have children : composition.unnamed.children = Node.unnamedAll composition.children := rfl
  have fonts : fontsOf composition.unnamed = fontsOf composition := by
    rw [fontsOf, fontsOf, children, forestSegments_unnamedAll]
  unfold compileComposition
  rw [bounds, origin, fonts, children, renderUnion_unnamedAll, forestImages_unnamedAll,
    Node.unnamedAll_eq_map, List.isEmpty_map, ← Node.unnamedAll_eq_map]
  dsimp only
  split
  · rfl
  split
  · rfl
  next origin _ =>
    -- Both walks end alike with the same rules, and the files that are written have no names.
    obtain ⟨ended, ended', rules, first, second, same⟩ :=
      outcome_topLevel template origin composition.children .empty
    rw [first, second]
    dsimp only
    cases ended with
    | error fault =>
      cases ended' with
      | error other =>
        cases same
        rfl
      | ok drawn => cases same
    | ok drawn =>
      cases ended' with
      | error fault => cases same
      | ok drawn' =>
        have alike : SceneNode.unnamedAll drawn = SceneNode.unnamedAll drawn' := Except.ok.inj same
        have files : (SceneNode.preorders drawn).filterMap SceneBox.svgFile =
            (SceneNode.preorders drawn').filterMap SceneBox.svgFile := by
          rw [← svgFiles_unnamedAll, alike, svgFiles_unnamedAll]
        cases union : renderUnion composition.children with
        | error fault => rfl
        | ok union =>
          refine congrArg Except.ok ?_
          simp [CompiledScene.unnamed, alike, files]

/-- A composition compiles under other names too, to the same scene but for names. -/
theorem exists_compiled_of_unnamed_eq {template : String} {provider : FontProvider}
    {composition other : Composition α} {scene : CompiledScene α}
    (same : other.unnamed = composition.unnamed)
    (compiled : compileComposition template provider composition = .ok scene) :
    ∃ again, compileComposition template provider other = .ok again ∧
      again.unnamed = scene.unnamed := by
  have alike := compileComposition_unnamed template provider composition
  rw [← same, compileComposition_unnamed, compiled] at alike
  cases again : compileComposition template provider other with
  | error fault =>
    rw [again] at alike
    cases alike
  | ok again' =>
    rw [again] at alike
    exact ⟨again', rfl, Except.ok.inj alike⟩

end Compiled

end Artboard
