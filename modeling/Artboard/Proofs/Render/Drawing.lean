import Artboard.Proofs.Classes.Utility
import Artboard.Proofs.Scene.Walk
import Artboard.Render.Markup

/-!
# Drawn scenes

A scene is drawn box by box: each node becomes one element, or two where it is
wrapped, with the elements of its children inside. Only texts and vectors hold
anything else. Two drawings of one scene therefore have the same nesting.
-/
namespace Artboard.Render

open Markup Classes Classes.UtilitySet

variable {α : Type}

/-! ### Runs -/

namespace Rendering

variable {β γ : Type}

/-- From the classes in use before, the rendering ends with the value and those after. -/
def Ends (action : Rendering β) (before : UtilitySet) (value : β) (after : UtilitySet) : Prop :=
  action.run before = .ok (value, after)

theorem ends_bind_iff {action : Rendering β} {next : β → Rendering γ} {before after : UtilitySet}
    {result : γ} :
    Ends (action >>= next) before result after ↔
      ∃ value between, Ends action before value between ∧
        Ends (next value) between result after := by
  simp only [Ends, StateT.run_bind, Except.bind_eq_ok_iff, Prod.exists]

theorem ends_pure_iff {value result : β} {before after : UtilitySet} :
    Ends (pure value) before result after ↔ value = result ∧ before = after := by
  have ends : (pure value : Rendering β).run before = .ok (value, before) := rfl
  simp [Ends, ends]

theorem ends_lift_iff {result? : Except Fault β} {result : β} {before after : UtilitySet} :
    Ends (liftM result?) before result after ↔ result? = .ok result ∧ before = after := by
  cases result? with
  | error fault =>
    have ends : (liftM (Except.error fault : Except Fault β) : Rendering β).run before =
      .error fault := rfl
    simp [Ends, ends]
  | ok value => exact ends_pure_iff.trans (by simp)

theorem ends_modify_iff {change : UtilitySet → UtilitySet} {before after : UtilitySet}
    {result : PUnit} : Ends (modify change) before result after ↔ change before = after := by
  have ends : (modify change : Rendering PUnit).run before = .ok (⟨⟩, change before) := rfl
  simp [Ends, ends]

end Rendering

open Rendering

/-! ### Heads -/

/-- The head of an element with plain attributes. -/
def plainHead (attributes : List (String × String)) (text : List Char) : Head :=
  { (Element.plain "div" attributes []).head with text }

theorem attribute?_plainHead (attributes : List (String × String)) (text : List Char)
    (name : String) : (plainHead attributes text).attribute? name = attributes.lookup name := by
  change (attributes.map fun entry => (Name.plain entry.1, entry.2)).lookup (Name.plain name) = _
  induction attributes with
  | nil => rfl
  | cons first rest ih =>
    have same : (Name.plain name == Name.plain first.1) = (name == first.1) := by
      rw [Bool.eq_iff_iff]
      simp [Name.plain]
    rw [List.map_cons, List.lookup_cons, List.lookup_cons, same, ih]

/-- The text of the style attribute, which an element without declarations lacks. -/
def styleText? (bag : Css.Declarations) : Option String :=
  if bag.isEmpty then none else some bag.serialize

theorem lookup_styleAttribute (bag : Css.Declarations) :
    (styleAttribute bag).lookup "style" = styleText? bag := by
  rw [styleAttribute, styleText?]
  split <;> rfl

/-- Nothing but the styling of a box is about its style. -/
theorem style_boxAttributes (mode : Mode) (box : SceneBox α) (styling : Styling) :
    (boxAttributes mode box (fileAttribute mode box) styling).lookup "style" =
      styleText? styling.css := by
  have file : (fileAttribute mode box).lookup "style" = none := by
    rw [fileAttribute.eq_def]
    split <;> rfl
  unfold boxAttributes
  dsimp only
  rw [List.lookup_append, List.lookup_append, List.lookup_append, file, lookup_styleAttribute]
  cases mode with
  | content => cases box.hasStroke <;> rfl
  | overlay => rfl

theorem style_wrapperAttributes (mode : Mode) (box : SceneBox α) (outer : Css.Declarations) :
    (wrapperAttributes mode box outer).lookup "style" =
      match mode with
      | .content => styleText? outer
      | .overlay => styleText? (outer.subset geometryProperties) := by
  cases mode <;> exact lookup_styleAttribute _

/-! ### Elements -/

section Nodes

variable [Scalar α]

/-- The element of a box, inside that of its wrapper where it has one. -/
def nodeElement (tables : Tables) (box : SceneBox α) (styling : Styling)
    (outer : Option Css.Declarations) (content : Fragment) (below : List Element) : Element :=
  let element := boxElement tables box styling content below
  match outer with
  | none => element
  | some outer => .plain "div" (wrapperAttributes tables.mode box outer) [element]

theorem renderNode_ends_iff {tables : Tables} {box : SceneBox α} {children : List (SceneNode α)}
    {before after : UtilitySet} {element : Element} :
    Ends (renderNode tables (.mk box children)) before element after ↔
      ∃ styling outer content below, boxStyling tables box = .ok (styling, outer) ∧
        ownContent tables box = .ok content ∧
        Ends (renderNodes tables children) (before.add styling.utilities) below after ∧
        element = nodeElement tables box styling outer content below := by
  have returned (styling : Styling) (outer : Option Css.Declarations) (content : Fragment)
      (below : List Element) (between : UtilitySet) :
      Ends (match outer with
        | none => pure (boxElement tables box styling content below)
        | some outer => pure (.plain "div" (wrapperAttributes tables.mode box outer)
            [boxElement tables box styling content below])) between element after ↔
        nodeElement tables box styling outer content below = element ∧ between = after := by
    cases outer <;> exact ends_pure_iff
  rw [renderNode]
  simp only [ends_bind_iff, ends_lift_iff, ends_modify_iff]
  constructor
  · rintro ⟨⟨styling, outer⟩, _, ⟨boxed, rfl⟩, _, _, rfl, content, _, ⟨filled, rfl⟩, below, _,
      drawn, ended⟩
    obtain ⟨rfl, rfl⟩ := (returned _ _ _ _ _).mp ended
    exact ⟨styling, outer, content, below, boxed, filled, drawn, rfl⟩
  · rintro ⟨styling, outer, content, below, boxed, filled, drawn, rfl⟩
    exact ⟨(styling, outer), _, ⟨boxed, rfl⟩, ⟨⟩, _, rfl, content, _, ⟨filled, rfl⟩, below, _,
      drawn, (returned _ _ _ _ _).mpr ⟨rfl, rfl⟩⟩

theorem renderNodes_nil_ends_iff {tables : Tables} {before after : UtilitySet}
    {elements : List Element} :
    Ends (renderNodes (α := α) tables []) before elements after ↔
      elements = [] ∧ before = after := by
  rw [renderNodes, ends_pure_iff, eq_comm]

theorem renderNodes_cons_ends_iff {tables : Tables} {node : SceneNode α} {rest : List (SceneNode α)}
    {before after : UtilitySet} {elements : List Element} :
    Ends (renderNodes tables (node :: rest)) before elements after ↔
      ∃ first more between, Ends (renderNode tables node) before first between ∧
        Ends (renderNodes tables rest) between more after ∧ elements = first :: more := by
  rw [renderNodes]
  simp only [ends_bind_iff, ends_pure_iff]
  constructor
  · rintro ⟨first, between, drawn, more, _, others, rfl, rfl⟩
    exact ⟨first, more, between, drawn, others, rfl⟩
  · rintro ⟨first, more, between, drawn, others, rfl⟩
    exact ⟨first, between, drawn, more, _, others, rfl, rfl⟩

end Nodes

/-! ### Boxes in a drawing -/

/-- The element draws the node and what is below it: the heads of each box, that of its wrapper
among them, are related to the box. Only texts and vectors hold a payload. -/
inductive Draws (R : SceneBox α → Option Head → Head → Prop) : SceneNode α → Element → Prop
  | single {box children head payload below} :
      box.layout.wrapper = none →
      (box.kind ≠ .text → box.kind ≠ .svg → payload = []) → R box none head →
      List.Forall₂ (Draws R) children below →
      Draws R (.mk box children) (.mk head (payload ++ below))
  | wrapped {box children outer head payload below wrapper} :
      box.layout.wrapper = some wrapper →
      (box.kind ≠ .text → box.kind ≠ .svg → payload = []) → R box (some outer) head →
      List.Forall₂ (Draws R) children below →
      Draws R (.mk box children) (.mk outer [.mk head (payload ++ below)])

theorem mem_preorders_iff {box : SceneBox α} {nodes : List (SceneNode α)} :
    box ∈ SceneNode.preorders nodes ↔ ∃ node ∈ nodes, box ∈ node.preorder := by
  induction nodes with
  | nil => simp [SceneNode.preorders]
  | cons first rest ih => simp [SceneNode.preorders, ih]

theorem mem_preorders_of_mem {box : SceneBox α} {node : SceneNode α} {nodes : List (SceneNode α)}
    (member : node ∈ nodes) (inside : box ∈ node.preorder) : box ∈ SceneNode.preorders nodes :=
  mem_preorders_iff.mpr ⟨node, member, inside⟩

theorem Draws.mono {R S : SceneBox α → Option Head → Head → Prop} (node : SceneNode α) :
    ∀ element, (∀ box ∈ node.preorder, ∀ outer head, R box outer head → S box outer head) →
      Draws R node element → Draws S node element := by
  induction node using SceneNode.memInduction with
  | step box children ih =>
    intro element imp draws
    rw [SceneNode.preorder, List.forall_mem_cons] at imp
    have inner {below : List Element} (drawn : List.Forall₂ (Draws R) children below) :
        List.Forall₂ (Draws S) children below := by
      refine forall₂_imp_of_mem drawn fun child member element => ih child member element ?_
      exact fun box inside => imp.2 box (mem_preorders_of_mem member inside)
    cases draws with
    | single alone payload related below =>
      exact .single alone payload (imp.1 _ _ related) (inner below)
    | wrapped wrapped payload related below =>
      exact .wrapped wrapped payload (imp.1 _ _ related) (inner below)

private theorem Draws.exists_head {R : SceneBox α → Option Head → Head → Prop}
    (node : SceneNode α) : ∀ element, Draws R node element →
      ∀ box ∈ node.preorder, ∃ outer head, R box outer head := by
  induction node using SceneNode.memInduction with
  | step box children ih =>
    intro element draws inside member
    have inner {below : List Element} (drawn : List.Forall₂ (Draws R) children below)
        (member : inside ∈ SceneNode.preorders children) : ∃ outer head, R inside outer head := by
      obtain ⟨child, here, within⟩ := mem_preorders_iff.mp member
      obtain ⟨element, -, draws⟩ := exists_of_mem_left drawn here
      exact ih child here element draws inside within
    cases draws with
    | single alone payload related below =>
      rcases List.mem_cons.mp member with rfl | member
      · exact ⟨_, _, related⟩
      · exact inner below member
    | wrapped wrapped payload related below =>
      rcases List.mem_cons.mp member with rfl | member
      · exact ⟨_, _, related⟩
      · exact inner below member

/-- Every box of a drawn scene is drawn by some heads. -/
theorem exists_heads {R : SceneBox α → Option Head → Head → Prop} {nodes : List (SceneNode α)}
    {elements : List Element} (drawn : List.Forall₂ (Draws R) nodes elements) {box : SceneBox α}
    (member : box ∈ SceneNode.preorders nodes) : ∃ outer head, R box outer head := by
  obtain ⟨node, here, inside⟩ := mem_preorders_iff.mp member
  obtain ⟨element, -, draws⟩ := exists_of_mem_left drawn here
  exact draws.exists_head node element box inside

/-- What a box holds is what its text is read as, what is shown of its vector, or nothing. -/
inductive OwnContent (tables : Tables) (box : SceneBox α) : Fragment → Prop
  | text {markup} : box.kind = .text → box.content = .text markup →
      OwnContent tables box (readFragment markup)
  | vector {content} : box.kind = .svg → vectorContent tables box = .ok content →
      OwnContent tables box content
  | blank : box.kind ≠ .svg → OwnContent tables box .empty

theorem ownContent_cases {tables : Tables} {box : SceneBox α} {content : Fragment}
    (filled : ownContent tables box = .ok content) : OwnContent tables box content := by
  unfold ownContent at filled
  split at filled
  next markup text holds _ =>
    obtain ⟨_, -, filled⟩ := Except.bind_eq_ok_iff.mp filled
    obtain rfl : readFragment markup = content := Except.ok.inj filled
    exact .text text holds
  next vector _ =>
    obtain ⟨_, -, filled⟩ := Except.bind_eq_ok_iff.mp filled
    exact .vector vector filled
  next vector _ => exact .vector vector filled
  next other _ _ =>
    cases filled
    exact .blank other

/-- Only texts and vectors hold elements of their own. -/
theorem payload_eq_nil {tables : Tables} {box : SceneBox α} {content : Fragment}
    (filled : ownContent tables box = .ok content) (text : box.kind ≠ .text)
    (vector : box.kind ≠ .svg) : content.elements = [] := by
  cases ownContent_cases filled with
  | text isText => exact absurd isText text
  | vector isVector => exact absurd isVector vector
  | blank => rfl

theorem vectorContent_of_ownContent {tables : Tables} {box : SceneBox α} {content : Fragment}
    (vector : box.kind = .svg) (filled : ownContent tables box = .ok content) :
    vectorContent tables box = .ok content := by
  cases ownContent_cases filled with
  | text isText => exact absurd (isText.symm.trans vector) (by decide)
  | vector _ filled => exact filled
  | blank other => exact absurd vector other

section Nodes

variable [Scalar α]

/-- The heads of a box are those of its styling, whose classes are in use. -/
def StyledAs (tables : Tables) (used : List String) (box : SceneBox α) (outer : Option Head)
    (head : Head) : Prop :=
  ∃ styling css text, boxStyling tables box = .ok (styling, css) ∧ styling.utilities ⊆ used ∧
    outer = css.map (fun css => plainHead (wrapperAttributes tables.mode box css) []) ∧
    head = plainHead
      (boxAttributes tables.mode box (fileAttribute tables.mode box) styling) text

theorem StyledAs.mono {tables : Tables} {used more : List String} (within : used ⊆ more)
    {box : SceneBox α} {outer : Option Head} {head : Head}
    (styled : StyledAs tables used box outer head) : StyledAs tables more box outer head := by
  obtain ⟨styling, css, text, boxed, known, rest⟩ := styled
  exact ⟨styling, css, text, boxed, fun _ member => within (known member), rest⟩

/-- Exactly the wrapped boxes have an outer element. -/
theorem boxStyling_wrapper {tables : Tables} {box : SceneBox α} {styling : Styling}
    {outer : Option Css.Declarations} (boxed : boxStyling tables box = .ok (styling, outer)) :
    outer.isSome = box.layout.wrapper.isSome := by
  unfold boxStyling at boxed
  split at boxed
  next alone =>
    obtain ⟨bag, -, boxed⟩ := Except.bind_eq_ok_iff.mp boxed
    cases boxed
    simp [alone]
  next wrapper wrapped =>
    obtain ⟨bags, -, boxed⟩ := Except.bind_eq_ok_iff.mp boxed
    cases boxed
    simp [wrapped]

private theorem draws_nodeElement {tables : Tables} {used : List String} {box : SceneBox α}
    {children : List (SceneNode α)} {styling : Styling} {outer : Option Css.Declarations}
    {content : Fragment} {below : List Element}
    (boxed : boxStyling tables box = .ok (styling, outer)) (known : styling.utilities ⊆ used)
    (filled : ownContent tables box = .ok content)
    (drawn : List.Forall₂ (Draws (StyledAs tables used)) children below) :
    Draws (StyledAs tables used) (.mk box children)
      (nodeElement tables box styling outer content below) := by
  have wrapper := boxStyling_wrapper boxed
  cases outer with
  | none =>
    refine .single (Option.not_isSome_iff_eq_none.mp (by simp [← wrapper])) (payload_eq_nil filled)
      ⟨styling, none, content.text, boxed, known, rfl, rfl⟩ drawn
  | some outer =>
    obtain ⟨around, wrapped⟩ := Option.isSome_iff_exists.mp wrapper.symm
    exact .wrapped wrapped (payload_eq_nil filled)
      ⟨styling, some outer, content.text, boxed, known, rfl, rfl⟩ drawn

/-- The class is one of those that the box needs a rule for. -/
def NeedsRule (tables : Tables) (box : SceneBox α) (name : String) : Prop :=
  ∃ styling css, boxStyling tables box = .ok (styling, css) ∧ name ∈ styling.utilities

/-- What a rendering of nodes keeps: its elements draw the nodes with the classes in use at its
end, and to these it only adds what its boxes need, each once. -/
structure DrawsAll (tables : Tables) (nodes : List (SceneNode α)) (before : UtilitySet)
    (elements : List Element) (after : UtilitySet) : Prop where
  draws : List.Forall₂ (Draws (StyledAs tables after.names)) nodes elements
  grows : before.names ⊆ after.names
  distinct : after.names.Nodup
  needed : ∀ name ∈ after.names,
    name ∈ before.names ∨ ∃ box ∈ SceneNode.preorders nodes, NeedsRule tables box name

private theorem drawsAll_of_renderNodes {tables : Tables} {nodes : List (SceneNode α)}
    (each : ∀ node ∈ nodes, ∀ {before after element},
      Ends (renderNode tables node) before element after → before.names.Nodup →
      DrawsAll tables [node] before [element] after) :
    ∀ {before after elements}, Ends (renderNodes tables nodes) before elements after →
      before.names.Nodup → DrawsAll tables nodes before elements after := by
  induction nodes with
  | nil =>
    intro before after elements ended distinct
    obtain ⟨rfl, rfl⟩ := renderNodes_nil_ends_iff.mp ended
    exact ⟨.nil, List.Subset.refl _, distinct, fun _ => .inl⟩
  | cons node rest ih =>
    intro before after elements ended distinct
    obtain ⟨first, more, between, drawn, others, rfl⟩ := renderNodes_cons_ends_iff.mp ended
    obtain ⟨here, later⟩ := List.forall_mem_cons.mp each
    have first := here drawn distinct
    have others := ih later others first.distinct
    obtain ⟨draws, -⟩ := List.forall₂_cons.mp first.draws
    have needed : ∀ name ∈ after.names, name ∈ before.names ∨
        ∃ box ∈ SceneNode.preorders (node :: rest), NeedsRule tables box name := by
      intro name member
      rcases others.needed name member with known | ⟨box, inside, needs⟩
      · refine (first.needed name known).imp_right fun ⟨box, inside, needs⟩ => ⟨box, ?_, needs⟩
        rw [SceneNode.preorders, SceneNode.preorders, List.append_nil] at inside
        exact List.mem_append_left _ inside
      · exact .inr ⟨box, List.mem_append_right _ inside, needs⟩
    -- Later nodes only add classes, so the first one keeps its drawing.
    exact ⟨.cons (draws.mono node _ fun _ _ _ _ => .mono others.grows) others.draws,
      fun _ member => others.grows (first.grows member), others.distinct, needed⟩

private theorem drawsAll_of_renderNode (tables : Tables) (node : SceneNode α) :
    ∀ {before after element}, Ends (renderNode tables node) before element after →
      before.names.Nodup → DrawsAll tables [node] before [element] after := by
  induction node using SceneNode.memInduction with
  | step box children ih =>
    intro before after element ended distinct
    obtain ⟨styling, outer, content, below, boxed, filled, drawn, rfl⟩ :=
      renderNode_ends_iff.mp ended
    have inner := drawsAll_of_renderNodes ih drawn (nodup_names_add distinct _)
    -- The classes of the box are in use before its children are drawn.
    have known : styling.utilities ⊆ after.names := fun name member =>
      inner.grows (mem_names_add.mpr (.inr member))
    have needed : ∀ name ∈ after.names, name ∈ before.names ∨
        ∃ inside ∈ SceneNode.preorders [.mk box children], NeedsRule tables inside name := by
      intro name member
      rcases inner.needed name member with known | ⟨below, inside, needs⟩
      · refine (mem_names_add.mp known).imp_right fun own => ⟨box, ?_, styling, outer, boxed, own⟩
        exact .head _
      · refine .inr ⟨below, ?_, needs⟩
        exact List.mem_append_left _ (.tail _ inside)
    exact ⟨.cons (draws_nodeElement boxed known filled inner.draws) .nil,
      fun name member => inner.grows (mem_names_add.mpr (.inl member)), inner.distinct, needed⟩

/-- A rendering draws its nodes. -/
theorem drawsAll {tables : Tables} {nodes : List (SceneNode α)} {before after : UtilitySet}
    {elements : List Element} (ended : Ends (renderNodes tables nodes) before elements after)
    (distinct : before.names.Nodup) : DrawsAll tables nodes before elements after :=
  drawsAll_of_renderNodes (fun node _ => drawsAll_of_renderNode tables node) ended distinct

/-- A scene is drawn with the rules of the classes in use. -/
theorem renderScene_cases {mode : Mode} {settings : Settings} {scene : CompiledScene α}
    {markup : RenderedMarkup} (rendered : renderScene mode settings scene = .ok markup) :
    ∃ used, DrawsAll (.ofScene mode settings scene.nodes) scene.nodes .empty markup.elements used ∧
      markup.css = contentCss scene (.ofScene mode settings scene.nodes) used := by
  obtain ⟨⟨elements, used⟩, ended, rendered⟩ := Except.bind_eq_ok_iff.mp rendered
  cases rendered
  exact ⟨used, drawsAll ended List.nodup_nil, rfl⟩

/-- The rendering of the node ends, whatever classes are in use. -/
def Renders (tables : Tables) (node : SceneNode α) : Prop :=
  ∀ before, ∃ element after, Ends (renderNode tables node) before element after

private theorem renderNodes_ends {tables : Tables} {nodes : List (SceneNode α)}
    (renders : ∀ node ∈ nodes, Renders tables node) (before : UtilitySet) :
    ∃ elements after, Ends (renderNodes tables nodes) before elements after := by
  induction nodes generalizing before with
  | nil => exact ⟨[], before, renderNodes_nil_ends_iff.mpr ⟨rfl, rfl⟩⟩
  | cons node rest ih =>
    obtain ⟨here, later⟩ := List.forall_mem_cons.mp renders
    obtain ⟨first, between, drawn⟩ := here before
    obtain ⟨more, after, others⟩ := ih later between
    exact ⟨first :: more, after,
      renderNodes_cons_ends_iff.mpr ⟨first, more, between, drawn, others, rfl⟩⟩

private theorem mem_renderNodes {tables : Tables} {nodes : List (SceneNode α)}
    {before after : UtilitySet} {elements : List Element}
    (ended : Ends (renderNodes tables nodes) before elements after) :
    ∀ node ∈ nodes, ∃ before element after, Ends (renderNode tables node) before element after := by
  induction nodes generalizing before elements with
  | nil => simp
  | cons node rest ih =>
    obtain ⟨first, more, between, drawn, others, rfl⟩ := renderNodes_cons_ends_iff.mp ended
    exact List.forall_mem_cons.mpr ⟨⟨before, first, between, drawn⟩, ih others⟩

/-- Where the boxes of a rendering have a styling and a content with other tables too, it ends
with these as well, whatever classes are in use. -/
theorem renders_of_ends {tables others : Tables}
    (stylings : ∀ (box : SceneBox α) found, boxStyling tables box = .ok found →
      ∃ found, boxStyling others box = .ok found)
    (contents : ∀ (box : SceneBox α) found, ownContent tables box = .ok found →
      ∃ found, ownContent others box = .ok found) (node : SceneNode α) :
    ∀ {before after element}, Ends (renderNode tables node) before element after →
      Renders others node := by
  induction node using SceneNode.memInduction with
  | step box children ih =>
    intro before after element ended start
    obtain ⟨styling, outer, content, below, boxed, filled, drawn, -⟩ :=
      renderNode_ends_iff.mp ended
    obtain ⟨⟨styling, outer⟩, boxed⟩ := stylings box _ boxed
    obtain ⟨content, filled⟩ := contents box _ filled
    have renders : ∀ node ∈ children, Renders others node := fun node member => by
      obtain ⟨_, _, _, ended⟩ := mem_renderNodes drawn node member
      exact ih node member ended
    obtain ⟨below, after, drawn⟩ := renderNodes_ends renders (start.add styling.utilities)
    exact ⟨_, after, renderNode_ends_iff.mpr
      ⟨styling, outer, content, below, boxed, filled, drawn, rfl⟩⟩

/-- Where every box of a scene can be drawn with the tables of another mode, so can the scene. -/
theorem renderScene_ends {mode other : Mode} {settings : Settings} {scene : CompiledScene α}
    {markup : RenderedMarkup} (rendered : renderScene mode settings scene = .ok markup)
    (stylings : ∀ (box : SceneBox α) found,
      boxStyling (.ofScene mode settings scene.nodes) box = .ok found →
        ∃ found, boxStyling (.ofScene other settings scene.nodes) box = .ok found)
    (contents : ∀ (box : SceneBox α) found,
      ownContent (.ofScene mode settings scene.nodes) box = .ok found →
        ∃ found, ownContent (.ofScene other settings scene.nodes) box = .ok found) :
    ∃ markup, renderScene other settings scene = .ok markup := by
  obtain ⟨⟨elements, used⟩, ended, -⟩ := Except.bind_eq_ok_iff.mp rendered
  have renders : ∀ node ∈ scene.nodes, Renders (.ofScene other settings scene.nodes) node :=
    fun node member => by
      obtain ⟨_, _, _, ended⟩ := mem_renderNodes ended node member
      exact renders_of_ends stylings contents node ended
  obtain ⟨elements, used, drawn⟩ := renderNodes_ends renders .empty
  exact ⟨_, Except.bind_eq_ok_iff.mpr ⟨(elements, used), drawn, rfl⟩⟩

end Nodes

end Artboard.Render
