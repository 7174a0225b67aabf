import Artboard.Proofs.Css.Selector
import Artboard.Proofs.Scene.Properties
import Mathlib.Data.List.Induction
import Mathlib.Data.List.Nodup

/-!
# Rules of strokes

A stroke that needs a pseudo-element is registered under the id of its node when
the box of the node is compiled. The rules of a scene are those that the entries of
its walk register one after the other, so that of several strokes with one id the
last one stays.
-/
namespace Artboard

open Css Css.Declarations

variable {α : Type}

/-! ### Registered strokes -/

section Registered

variable [Scalar α]

/-- The stroke of a node, beside the shadows that it shows itself. -/
def NodeProps.stroke (node : NodeProps α) : Except Fault StrokeCss := do
  let declared ← node.style.effectSet
  let effects :=
    if paintsInherited (NodeKind.ofNode node) node.style.isBareHolder then declared
    else declared.withoutShadows
  StrokeCss.ofNode node effects.shadows

/-- What the pseudo-element of an entry declares, if its stroke needs one. A group has no stroke. -/
def Entry.pseudo? (entry : Entry α) : Option Declarations :=
  if entry.isGroup then none else entry.node.props.stroke.toOption.bind (·.pseudo)

def PseudoRules.register (rules : PseudoRules) (entry : Entry α) : PseudoRules :=
  match entry.pseudo? with
  | some bag => rules.add (pseudoSelector entry.node.props.id) bag
  | none => rules

theorem PseudoRules.register_of_none {entry : Entry α} (none : entry.pseudo? = none)
    (rules : PseudoRules) : rules.register entry = rules := by
  rw [register, none]

end Registered

namespace Compile

variable [Scalar α] {β γ : Type}

/-- Where the computation ends, the entries have been registered in order. -/
def Registers (action : Compile β) (entries : List (Entry α)) : Prop :=
  ∀ before value after, Runs action before value after →
    after = entries.foldl PseudoRules.register before

theorem registers_pure (value : β) : Registers (pure value) ([] : List (Entry α)) := fun _ _ _ run =>
  (runs_pure_iff.mp run).2.symm

/-- What collects no rules registers entries without a stroke. -/
theorem registers_ofExcept {result : Except Fault β} {entries : List (Entry α)}
    (quiet : ∀ entry ∈ entries, entry.pseudo? = none) : Registers (ofExcept result) entries := by
  intro before value after run
  obtain ⟨-, rfl⟩ := runs_ofExcept_iff.mp run
  induction entries with
  | nil => rfl
  | cons entry rest ih =>
    obtain ⟨here, later⟩ := List.forall_mem_cons.mp quiet
    rw [List.foldl_cons, PseudoRules.register_of_none here]
    exact ih later

theorem registers_stopAt (cause : Violation) (entries : List (Entry α)) :
    Registers (stopAt cause : Compile β) entries := fun _ _ _ run =>
  (not_returns_stopAt ⟨_, _, run⟩).elim

theorem Registers.bind {action : Compile β} {next : β → Compile γ} {first second : List (Entry α)}
    (registers : Registers action first)
    (later : ∀ value, Returns action value → Registers (next value) second) :
    Registers (action >>= next) (first ++ second) := by
  intro before value after run
  obtain ⟨between, rules, here, there⟩ := runs_bind_iff.mp run
  rw [List.foldl_append, ← registers _ _ _ here]
  exact later between ⟨_, _, here⟩ _ _ _ there

/-- A traversal registers what its visits register, in order. -/
theorem registers_mapM {visit : β → Compile γ} {items : List β} {entries : List (List (Entry α))}
    (each : List.Forall₂ (fun item entries => Registers (visit item) entries) items entries) :
    Registers (items.mapM visit) entries.flatten := by
  induction each with
  | nil =>
    rw [List.mapM_nil]
    exact registers_pure _
  | cons first _ ih =>
    rw [List.mapM_cons, List.flatten_cons]
    refine first.bind fun _ _ => ?_
    rw [← List.append_nil (List.flatten _)]
    exact ih.bind fun _ _ => registers_pure _

end Compile

/-! ### Compilation registers the walk -/

section Compiled

open Compile

variable [Scalar α] {template : String}

/-- The style of a box has the pseudo-element of the stroke of its node. -/
private theorem pseudo?_of_style {node : Node α} {inherited : List (Shadow α)} {style : BoxStyle}
    (styled : BoxStyle.ofNode template node.props (NodeKind.ofNode node.props)
      node.props.style.isBareHolder inherited = .ok style)
    (ancestors : List (Node α)) (cover : Option (Node α)) :
    Entry.pseudo? ⟨node, false, ancestors, cover⟩ = style.pseudo := by
  obtain ⟨background, declared, stroke, -, known, drawn, rfl⟩ := BoxStyle.ofNode_cases styled
  have stroked : node.props.stroke = .ok stroke :=
    Except.bind_eq_ok_iff.mpr ⟨declared, known, drawn⟩
  rw [Entry.pseudo?, if_neg (by simp), stroked]
  rfl

private theorem registers_compileBox (node : Node α) (flows : Bool) (place : Surroundings α)
    (ancestors : List (Node α)) (cover : Option (Node α)) :
    Registers (compileBox template node.props flows place)
      [⟨node, false, ancestors, cover⟩] := by
  intro before box after run
  unfold compileBox at run
  cases shown : node.props.visible with
  | false =>
    simp only [shown, Bool.not_false, if_true] at run
    obtain ⟨_, _, stopped, -⟩ := runs_bind_iff.mp run
    exact (not_returns_stopAt ⟨_, _, stopped⟩).elim
  | true =>
    simp only [shown, Bool.not_true, Bool.false_eq_true, if_false] at run
    obtain ⟨layout, _, placed, run⟩ := runs_bind_iff.mp run
    obtain ⟨-, rfl⟩ := runs_ofExcept_iff.mp placed
    obtain ⟨style, _, styled, run⟩ := runs_bind_iff.mp run
    obtain ⟨known, rfl⟩ := runs_ofExcept_iff.mp styled
    rw [List.foldl_cons, List.foldl_nil, PseudoRules.register, pseudo?_of_style known]
    -- Drawing the pseudo-element is the only step that changes the rules.
    cases drawn : style.pseudo with
    | some bag =>
      simp only [drawn] at run
      obtain ⟨_, rules, added, run⟩ := runs_bind_iff.mp run
      obtain ⟨content, _, filled, run⟩ := runs_bind_iff.mp run
      obtain ⟨-, rfl⟩ := runs_ofExcept_iff.mp filled
      obtain ⟨-, rfl⟩ := runs_pure_iff.mp run
      cases added
      rfl
    | none =>
      simp only [drawn] at run
      obtain ⟨content, _, filled, run⟩ := runs_bind_iff.mp run
      obtain ⟨-, rfl⟩ := runs_ofExcept_iff.mp filled
      exact (runs_pure_iff.mp run).2.symm

omit [Scalar α] in
private theorem preorders_eq_flatten (trees : List (EntryTree α)) :
    EntryTree.preorders trees = (trees.map EntryTree.preorder).flatten := by
  induction trees with
  | nil => rfl
  | cons tree rest ih => simp [EntryTree.preorders, ih]

/-- What is compiled for nodes one by one registers their walks. -/
private theorem registers_nodes {place : Surroundings α} {nodes : List (Node α)}
    {ancestors : List (Node α)} {cover : Option (Node α)}
    (each : ∀ node ∈ nodes, Registers (compileNode template node place)
      (walkNode ancestors cover node).preorder) :
    Registers (nodes.mapM fun node => compileNode template node place)
      (EntryTree.preorders (nodes.map (walkNode ancestors cover))) := by
  rw [preorders_eq_flatten, List.map_map]
  refine registers_mapM (List.forall₂_map_right_iff.mpr (List.forall₂_same.mpr fun node member => ?_))
  exact each node member

private theorem registers_compileItem {state : ContainerState α} {item : StackItem (Node α)}
    {ancestors : List (Node α)}
    (each : ∀ node ∈ item.group.members, ∀ place cover,
      Registers (compileNode template node place) (walkNode ancestors cover node).preorder) :
    Registers (compileItem template state (item.map (Child.ofNode template)))
      (walkGroup ancestors item.group).preorder := by
  cases item with
  | single child css => exact each child (.head _) _ _
  | masked mask covered css =>
    simp only [StackItem.map, compileItem, compileMasked, Child.ofNode]
    split
    · exact registers_stopAt _ _
    next absolute _ =>
      -- The group itself has no stroke.
      have start : ∀ entry ∈ [(⟨mask, true, ancestors, none⟩ : Entry α)],
          entry.pseudo? = none := by simp [Entry.pseudo?]
      change Registers _ ([⟨mask, true, ancestors, none⟩] ++ EntryTree.preorders _)
      refine (registers_ofExcept start).bind fun _ _ => ?_
      rw [← List.append_nil (EntryTree.preorders _)]
      refine Registers.bind ?_ fun _ _ => registers_pure _
      rw [List.filter_map, List.mapM_map]
      exact registers_nodes fun node member =>
        each node (.tail _ (List.mem_of_mem_filter member)) _ _

private theorem registers_compileNode (node : Node α) :
    ∀ (place : Surroundings α) (ancestors : List (Node α)) (cover : Option (Node α)),
      Registers (compileNode template node place) (walkNode ancestors cover node).preorder := by
  -- By induction on the tree: first the box registers the stroke of the node, then each item
  -- registers what the walk has below it.
  induction node using Node.memInduction with
  | step props children ih =>
    intro place ancestors cover
    have own : Registers (compileBox template props (hasFlowChildren children) place)
        [⟨.mk props children, false, ancestors, cover⟩] :=
      registers_compileBox (.mk props children) (hasFlowChildren children) place ancestors cover
    unfold compileNode
    rw [walkNode, EntryTree.preorder, ← List.singleton_append]
    refine Registers.bind own fun box boxed => ?_
    have kind : box.kind = NodeKind.ofNode props := by
      obtain ⟨_, _, _, _, _, _, _, rfl⟩ := compileBox_cases boxed
      rfl
    rw [kind]
    split
    next isFrame =>
      rw [← List.append_nil (EntryTree.preorders _)]
      refine Registers.bind ?_ fun _ _ => registers_pure _
      unfold compileChildren
      split
      next none =>
        have bare : children = [] := by
          cases children with
          | nil => rfl
          | cons => cases none
        subst bare
        exact registers_pure _
      next =>
        have quiet : ∀ entry ∈ ([] : List (Entry α)), entry.pseudo? = none :=
          List.forall_mem_nil _
        refine (registers_ofExcept quiet).bind fun state _ => ?_
        rw [stackItems_childrenOf, walk_items props, preorders_eq_flatten, List.map_map]
        refine registers_mapM (List.forall₂_map_left_iff.mpr (List.forall₂_map_right_iff.mpr
          (List.forall₂_same.mpr fun item member => ?_)))
        refine registers_compileItem fun node inside place cover => ?_
        exact ih node (mem_of_mem_itemsOf member inside) place _ cover
    next => exact registers_pure _

/-- The rules of a scene are those that the entries of its walk register, in order. -/
theorem rules_of_compiled {provider : FontProvider} {composition : Composition α}
    {scene : CompiledScene α}
    (compiled : compileComposition template provider composition = .ok scene) :
    scene.rules = (EntryTree.preorders composition.walk).foldl PseudoRules.register .empty := by
  rcases compileComposition_cases compiled with ⟨none, rfl⟩ | ⟨origin, known, run⟩
  · simp [Composition.walk, none, CompiledScene.blank, EntryTree.preorders]
  · exact registers_nodes (fun node _ => registers_compileNode node _ [] none) _ _ _ run

end Compiled

/-! ### The rule that stays -/

namespace PseudoRules

private theorem fst_insert (selector : String) (bag : Declarations)
    (rules : List (String × Declarations)) :
    (insert selector bag rules).map Prod.fst = rules.map Prod.fst ∨
      selector ∉ rules.map Prod.fst ∧
        (insert selector bag rules).map Prod.fst = rules.map Prod.fst ++ [selector] := by
  induction rules with
  | nil => simp [insert]
  | cons first rest ih =>
    obtain ⟨other, old⟩ := first
    by_cases same : other = selector
    · simp [insert, same]
    · simp only [insert, if_neg same, List.map_cons, List.cons.injEq, true_and, List.mem_cons,
        not_or, List.cons_append]
      exact ih.imp_right fun ⟨absent, appended⟩ => ⟨⟨Ne.symm same, absent⟩, appended⟩

private theorem mem_insert_iff {selector : String} {bag : Declarations}
    {rules : List (String × Declarations)} (distinct : (rules.map Prod.fst).Nodup)
    {rule : String × Declarations} :
    rule ∈ insert selector bag rules ↔
      rule = (selector, bag) ∨ rule.1 ≠ selector ∧ rule ∈ rules := by
  induction rules with
  | nil => simp [insert]
  | cons first rest ih =>
    obtain ⟨other, old⟩ := first
    obtain ⟨fresh, distinct⟩ := List.nodup_cons.mp distinct
    by_cases same : other = selector
    · subst same
      -- The replaced rule was the only one with its selector.
      have others : rule ∈ rest → rule.1 ≠ other := by
        rintro member rfl
        exact fresh (List.mem_map.mpr ⟨rule, member, rfl⟩)
      simp only [insert, if_true, List.mem_cons]
      grind
    · simp only [insert, if_neg same, List.mem_cons, ih distinct]
      grind

private theorem nodup_insert {selector : String} {bag : Declarations}
    {rules : List (String × Declarations)} (distinct : (rules.map Prod.fst).Nodup) :
    ((insert selector bag rules).map Prod.fst).Nodup := by
  rcases fst_insert selector bag rules with same | ⟨absent, appended⟩
  · rwa [same]
  · rw [appended]
    exact List.concat_eq_append ▸ distinct.concat absent

end PseudoRules

variable [Scalar α]

private theorem isEmpty_overlay {node : NodeProps α} {shadows : List (Shadow α)}
    {stroke : StrokeCss} (drawn : StrokeCss.ofNode node shadows = .ok stroke) {bag : Declarations}
    (pseudo : stroke.pseudo = some bag) : bag.isEmpty = false := by
  obtain ⟨spec, -, -, -, -, overlaid⟩ := StrokeCss.overlaid_ofNode drawn pseudo
  cases overlaid with
  | ring => exact isEmpty_ofList (by simp [StrokeSpec.gradientPseudo, pseudoBase])
  | dashes => exact isEmpty_ofList (by simp [StrokeSpec.dashPseudo, pseudoBase])
  | border => exact isEmpty_ofList (by simp [StrokeSpec.borderPseudo, pseudoBase])

/-- The pseudo-element of an entry is that of the stroke of its node. -/
theorem Entry.pseudo_cases {entry : Entry α} {bag : Declarations}
    (strokes : entry.pseudo? = some bag) :
    entry.isGroup = false ∧ ∃ shadows stroke,
      StrokeCss.ofNode entry.node.props shadows = .ok stroke ∧ stroke.pseudo = some bag := by
  rw [pseudo?] at strokes
  split at strokes
  · cases strokes
  next single =>
    refine ⟨Bool.eq_false_iff.mpr single, ?_⟩
    cases drawn : entry.node.props.stroke with
    | error fault =>
      rw [drawn] at strokes
      cases strokes
    | ok stroke =>
      rw [drawn] at strokes
      obtain ⟨declared, -, overlaid⟩ := Except.bind_eq_ok_iff.mp drawn
      exact ⟨_, stroke, overlaid, strokes⟩

/-- A pseudo-element has content at least. -/
theorem Entry.isEmpty_pseudo {entry : Entry α} {bag : Declarations}
    (strokes : entry.pseudo? = some bag) : bag.isEmpty = false := by
  obtain ⟨-, shadows, stroke, drawn, pseudo⟩ := entry.pseudo_cases strokes
  exact isEmpty_overlay drawn pseudo

/-- A stroke that is drawn by a pseudo-element is listed. -/
theorem Entry.strokes_of_pseudo {entry : Entry α} {bag : Declarations}
    (strokes : entry.pseudo? = some bag) : entry.node.props.style.strokes ≠ [] := by
  obtain ⟨-, shadows, stroke, drawn, pseudo⟩ := entry.pseudo_cases strokes
  obtain ⟨spec, known, -⟩ := StrokeCss.overlaid_ofNode drawn pseudo
  intro unlisted
  cases StrokeSpec.found_ofNode known with
  | solid first => simp [Style.strokePaint?, unlisted] at first
  | ring first => simp [Style.strokePaint?, unlisted] at first

/-- What the strokes of entries with the id declare, in the order of the entries. -/
def strokesOf (id : String) (entries : List (Entry α)) : List Declarations :=
  (entries.filter fun entry => entry.node.props.id == id).filterMap Entry.pseudo?

/-- Of the strokes with one id the last one has the rule, and no stroke has two. -/
theorem mem_rules_iff (entries : List (Entry α)) :
    ((entries.foldl PseudoRules.register .empty).toList.map Prod.fst).Nodup ∧
      ∀ id bag, (pseudoSelector id, bag) ∈ (entries.foldl PseudoRules.register .empty).toList ↔
        (strokesOf id entries).getLast? = some bag := by
  -- From the end, as one more entry changes the rule of its own id and no other.
  induction entries using List.reverseRecOn with
  | nil => simp [PseudoRules.empty, strokesOf]
  | append_singleton entries entry ih =>
    obtain ⟨distinct, known⟩ := ih
    rw [List.foldl_append, List.foldl_cons, List.foldl_nil]
    have strokes (id : String) : strokesOf id (entries ++ [entry]) =
        strokesOf id entries ++
          if entry.node.props.id = id then entry.pseudo?.toList else [] := by
      rw [strokesOf, List.filter_append, List.filterMap_append, strokesOf]
      by_cases same : entry.node.props.id = id
      · cases pseudo : entry.pseudo? <;> simp [same, pseudo]
      · simp [same]
    cases pseudo : entry.pseudo? with
    | none =>
      rw [PseudoRules.register_of_none pseudo]
      refine ⟨distinct, fun id bag => ?_⟩
      rw [known, strokes, pseudo]
      simp
    | some drawn =>
      rw [PseudoRules.register, pseudo]
      dsimp only
      rw [PseudoRules.add, if_neg (by simp [Entry.isEmpty_pseudo pseudo])]
      refine ⟨PseudoRules.nodup_insert distinct, fun id bag => ?_⟩
      rw [PseudoRules.mem_insert_iff distinct, strokes, pseudo, known]
      by_cases same : entry.node.props.id = id
      · subst same
        simp [eq_comm]
      · simp [same, pseudoSelector_inj, Ne.symm same]

end Artboard
