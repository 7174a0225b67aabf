import Artboard.Proofs.Render.Drawing
import Artboard.Proofs.Scene.Properties
import Artboard.Proofs.Typography.Spelling

/-!
# Depicted scenes

A drawn scene is the tree of the elements of its boxes, each with its content in
front of the elements below it. In document order its heads are therefore those of
its boxes, each box with the heads of its content before the next one.
-/
namespace Artboard

open Markup

namespace Markup

mutual

/-- The heads of a tree in document order. -/
def Element.heads : Element → List Head
  | .mk head children => head :: headsAll children

def headsAll : List Element → List Head
  | [] => []
  | element :: rest => element.heads ++ headsAll rest

end

mutual

private theorem heads_eq_map : (element : Element) → element.heads = element.preorder.map (·.head)
  | .mk head children => congrArg (head :: ·) (headsAll_eq_map children)

/-- The heads are those of the elements in document order. -/
theorem headsAll_eq_map :
    (elements : List Element) → headsAll elements = (Element.preorders elements).map (·.head)
  | [] => rfl
  | element :: rest => by
    rw [headsAll, heads_eq_map element, headsAll_eq_map rest, Element.preorders, List.map_append]

end

theorem headsAll_append (elements others : List Element) :
    headsAll (elements ++ others) = headsAll elements ++ headsAll others := by
  simp only [headsAll_eq_map, Element.preorders_append, List.map_append]

end Markup

namespace Render

variable {α : Type} [Scalar α]

open Rendering Classes

/-- The element is that of the box, with its content and with the elements of the nodes below. -/
inductive Depicts (tables : Tables) : SceneNode α → Element → Prop
  | mk {box children styling outer content below} :
      boxStyling tables box = .ok (styling, outer) → ownContent tables box = .ok content →
      List.Forall₂ (Depicts tables) children below →
      Depicts tables (.mk box children) (nodeElement tables box styling outer content below)

private theorem depictsAll {tables : Tables} {nodes : List (SceneNode α)}
    (each : ∀ node ∈ nodes, ∀ {before after element},
      Ends (renderNode tables node) before element after → Depicts tables node element) :
    ∀ {before after elements}, Ends (renderNodes tables nodes) before elements after →
      List.Forall₂ (Depicts tables) nodes elements := by
  induction nodes with
  | nil =>
    intro before after elements ended
    obtain ⟨rfl, -⟩ := renderNodes_nil_ends_iff.mp ended
    exact .nil
  | cons node rest ih =>
    intro before after elements ended
    obtain ⟨first, more, between, drawn, others, rfl⟩ := renderNodes_cons_ends_iff.mp ended
    obtain ⟨here, later⟩ := List.forall_mem_cons.mp each
    exact .cons (here drawn) (ih later others)

private theorem depicts_of_renderNode (tables : Tables) (node : SceneNode α) :
    ∀ {before after element}, Ends (renderNode tables node) before element after →
      Depicts tables node element := by
  induction node using SceneNode.memInduction with
  | step box children ih =>
    intro before after element ended
    obtain ⟨styling, outer, content, below, boxed, filled, drawn, rfl⟩ :=
      renderNode_ends_iff.mp ended
    exact .mk boxed filled (depictsAll ih drawn)

theorem depicts_of_renderScene {mode : Mode} {settings : Settings} {scene : CompiledScene α}
    {markup : RenderedMarkup} (rendered : renderScene mode settings scene = .ok markup) :
    List.Forall₂ (Depicts (.ofScene mode settings scene.nodes)) scene.nodes markup.elements := by
  obtain ⟨⟨elements, used⟩, ended, rendered⟩ := Except.bind_eq_ok_iff.mp rendered
  cases rendered
  exact depictsAll (fun node _ => depicts_of_renderNode _ node) ended

/-! ### Heads -/

/-- The head of the element that carries a box. -/
def ownHead (mode : Mode) (box : SceneBox α) (styling : Styling) (text : List Char) : Head :=
  plainHead (boxAttributes mode box (fileAttribute mode box) styling) text

/-- The head of the outer element of a wrapped box. -/
def outerHead (mode : Mode) (box : SceneBox α) (outer : Css.Declarations) : Head :=
  plainHead (wrapperAttributes mode box outer) []

/-- The heads of a box: that of its wrapper, its own and those of its content. -/
inductive HeadsOf (tables : Tables) (box : SceneBox α) : List Head → Prop
  | mk {styling outer content} :
      boxStyling tables box = .ok (styling, outer) → ownContent tables box = .ok content →
      HeadsOf tables box ((outer.map (outerHead tables.mode box)).toList ++
        ownHead tables.mode box styling content.text :: headsAll content.elements)

omit [Scalar α] in
private theorem heads_nodeElement (tables : Tables) (box : SceneBox α) (styling : Styling)
    (outer : Option Css.Declarations) (content : Fragment) (below : List Element) :
    (nodeElement tables box styling outer content below).heads =
      ((outer.map (outerHead tables.mode box)).toList ++
        ownHead tables.mode box styling content.text :: headsAll content.elements) ++
          headsAll below := by
  have own : (boxElement tables box styling content below).heads =
      ownHead tables.mode box styling content.text :: headsAll content.elements ++
        headsAll below := by
    rw [List.cons_append, ← headsAll_append]
    rfl
  cases outer with
  | none => exact own
  | some outer =>
    have wrapped : (nodeElement tables box styling (some outer) content below).heads =
        outerHead tables.mode box outer :: ((boxElement tables box styling content below).heads ++
          []) := rfl
    simp [wrapped, own]

private theorem headsAll_of_each {tables : Tables} {nodes : List (SceneNode α)}
    {elements : List Element} (depicted : List.Forall₂ (fun node element =>
      ∃ parts, List.Forall₂ (HeadsOf tables) node.preorder parts ∧ element.heads = parts.flatten)
      nodes elements) :
    ∃ parts, List.Forall₂ (HeadsOf tables) (SceneNode.preorders nodes) parts ∧
      headsAll elements = parts.flatten := by
  induction depicted with
  | nil => exact ⟨[], .nil, rfl⟩
  | cons first _ ih =>
    obtain ⟨here, own, same⟩ := first
    obtain ⟨later, others, rest⟩ := ih
    exact ⟨here ++ later, List.rel_append own others, by rw [headsAll, same, rest,
      List.flatten_append]⟩

private theorem heads_of_depicts {tables : Tables} (node : SceneNode α) :
    ∀ element, Depicts tables node element →
      ∃ parts, List.Forall₂ (HeadsOf tables) node.preorder parts ∧
        element.heads = parts.flatten := by
  induction node using SceneNode.memInduction with
  | step box children ih =>
    intro element depicts
    cases depicts with
    | mk boxed filled drawn =>
      obtain ⟨parts, each, same⟩ := headsAll_of_each (forall₂_imp_of_mem drawn ih)
      refine ⟨_ :: parts, .cons (.mk boxed filled) each, ?_⟩
      rw [heads_nodeElement, same, List.flatten_cons]

/-- The heads of a drawn scene in document order are those of its boxes, box by box. -/
theorem headsAll_of_renderScene {mode : Mode} {settings : Settings} {scene : CompiledScene α}
    {markup : RenderedMarkup} (rendered : renderScene mode settings scene = .ok markup) :
    ∃ parts, List.Forall₂ (HeadsOf (.ofScene mode settings scene.nodes))
      (SceneNode.preorders scene.nodes) parts ∧ headsAll markup.elements = parts.flatten :=
  headsAll_of_each (forall₂_imp_of_mem (depicts_of_renderScene rendered)
    fun node _ => heads_of_depicts node)

/-! ### Texts -/

/-- The only attribute is the style of the segment, in which every gap is a space. -/
def SpanHead (segment : TextSegment α) (head : Head) : Prop :=
  ∃ bag, Typography.segmentCss segment = .ok bag ∧
    head.attributes = [(.plain "style", String.ofList (spaced (lineFeeds bag.serialize.toList)))]

/-- The heads of a text: a span for each segment with its style, and elements without attributes
for its block and its line breaks. -/
structure TextHeads (text : TextData α) (heads : List Head) : Prop where
  spans : List.Forall₂ SpanHead text.segments (heads.filter (·.name == .plain "span"))
  others : ∀ head ∈ heads, head.name ≠ .plain "span" → head.attributes = []

private theorem textHeads_of_isTextContent {text : TextData α} {wrap : Bool} {content : Fragment}
    (isText : Typography.IsTextContent text wrap content) :
    TextHeads text (headsAll content.elements) := by
  rw [headsAll_eq_map]
  constructor
  · rw [List.filter_map, List.forall₂_map_right_iff]
    refine isText.forall₂_spans.imp fun segment span isSpan => ?_
    obtain ⟨styled, rfl⟩ := isSpan
    exact ⟨_, styled, rfl⟩
  · intro head member other
    obtain ⟨element, inside, rfl⟩ := List.mem_map.mp member
    exact isText.plain element inside other

omit [Scalar α] in
private theorem exists_text {node : NodeProps α} (isText : NodeKind.ofNode node = .text) :
    ∃ text, node.text = some text := by
  rw [NodeKind.ofNode] at isText
  split at isText
  · cases isText
  · split at isText
    next given => exact Option.isSome_iff_exists.mp given.2
    · split at isText <;> cases isText

/-- A text box holds the markup of the text of its node, in one block where it says how it is
displayed. -/
theorem text_of_compiledAs {template : String} {root : Affine α} {entry : Entry α}
    {box : SceneBox α} (compiled : CompiledAs template root entry box) (isText : box.kind = .text) :
    ∃ text ∈ entry.node.props.text, ∃ wrap markup, Typography.textMarkup text wrap = .ok markup ∧
      box.content = .text markup ∧
      ∀ value, box.declarations.get? "display" = some value → wrap = true := by
  cases compiled with
  | node _ placed returned =>
    obtain ⟨-, layout, style, content, -, styled, filled, rfl⟩ := compileBox_cases returned
    have kind : NodeKind.ofNode entry.node.props = .text := isText
    obtain ⟨text, given⟩ := exists_text kind
    unfold contentOf at filled
    rw [kind, given] at filled
    obtain ⟨markup, marked, same⟩ := Except.bind_eq_ok_iff.mp filled
    cases same
    refine ⟨text, given, style.textUsesFlex, markup, marked, rfl, fun value declared => ?_⟩
    -- As an item the box does not say it, so that its style does.
    rw [nodeBox, Css.Declarations.get?_update, placed.itemCss.get?_display, Option.or_none]
      at declared
    exact BoxStyle.textUsesFlex_of_display styled declared
  | group => cases isText

/-- What a text box holds is nothing but characters, or what its text is shown as. -/
theorem ownContent_text {template : String} {root : Affine α} {entry : Entry α}
    {box : SceneBox α} (compiled : CompiledAs template root entry box) (isText : box.kind = .text)
    {tables : Tables} {content : Fragment} (filled : ownContent tables box = .ok content) :
    content.elements = [] ∨
      ∃ text ∈ entry.node.props.text, ∃ wrap, Typography.IsTextContent text wrap content := by
  cases ownContent_cases filled with
  | @text markup _ holds =>
    obtain ⟨text, known, wrap, _, written, same, -⟩ := text_of_compiledAs compiled isText
    cases holds.symm.trans same
    rw [readFragment]
    split
    next head children read =>
      exact .inr ⟨text, known, wrap, Typography.isTextContent_of_readDocument written read⟩
    next => exact .inl rfl
  | vector vector _ => exact absurd (isText.symm.trans vector) (by decide)
  | blank => exact .inl rfl

/-- A text box holds the heads of its text, if it holds any. -/
theorem ownContent_textHeads {template : String} {root : Affine α} {entry : Entry α}
    {box : SceneBox α} (compiled : CompiledAs template root entry box) (isText : box.kind = .text)
    {tables : Tables} {content : Fragment} (filled : ownContent tables box = .ok content) :
    headsAll content.elements = [] ∨
      ∃ text ∈ entry.node.props.text, TextHeads text (headsAll content.elements) := by
  rcases ownContent_text compiled isText filled with none | ⟨text, known, wrap, isText⟩
  · exact .inl (by rw [none]; rfl)
  · exact .inr ⟨text, known, textHeads_of_isTextContent isText⟩

end Render

end Artboard
