import Artboard.Proofs.Render.Overlay
import Artboard.Proofs.Render.Styles
import Artboard.Proofs.Typography.Spelling

/-!
# Drawn texts

The markup of a text survives where it is put into the element of its box: the
element spells the characters of the text, each segment lies in a span of its own,
and a box that aligns its text as an item holds one item.
-/
namespace Artboard

open Markup

namespace Render

variable {α : Type} [Scalar α]

/-! ### Elements of boxes -/

/-- The element carries the box: it has the classes and the style of the box, and holds what the
box holds in front of the elements below it, which only a frame has. -/
inductive OwnElement (tables : Tables) (box : SceneBox α) : Element → Prop
  | mk {styling outer content below} :
      boxStyling tables box = .ok (styling, outer) → ownContent tables box = .ok content →
      (box.kind ≠ .frame → below = []) →
      OwnElement tables box (boxElement tables box styling content below)

omit [Scalar α] in
/-- The element of a box comes before those below it, whatever is around it or inside. -/
private theorem sublist_nodeElement (tables : Tables) (box : SceneBox α) (styling : Styling)
    (outer : Option Css.Declarations) (content : Fragment) {below owns : List Element}
    (inside : owns.Sublist (Element.preorders below)) :
    (boxElement tables box styling content below :: owns).Sublist
      (nodeElement tables box styling outer content below).preorder := by
  have own : (boxElement tables box styling content below :: owns).Sublist
      (boxElement tables box styling content below).preorder := by
    have whole : (boxElement tables box styling content below).preorder =
        boxElement tables box styling content below ::
          (Element.preorders content.elements ++ Element.preorders below) := by
      rw [← Element.preorders_append]
      rfl
    rw [whole]
    exact (inside.trans (List.sublist_append_right _ _)).cons_cons _
  cases outer with
  | none => exact own
  | some outer =>
    have wrapped : (nodeElement tables box styling (some outer) content below).preorder =
        nodeElement tables box styling (some outer) content below ::
          ((boxElement tables box styling content below).preorder ++ []) := rfl
    rw [wrapped, List.append_nil]
    exact own.cons _

private theorem owns_of_each {tables : Tables} {nodes : List (SceneNode α)}
    {elements : List Element} (depicted : List.Forall₂ (fun node element =>
      ∃ owns, owns.Sublist (Element.preorder element) ∧
        List.Forall₂ (OwnElement tables) node.preorder owns) nodes elements) :
    ∃ owns, owns.Sublist (Element.preorders elements) ∧
      List.Forall₂ (OwnElement tables) (SceneNode.preorders nodes) owns := by
  induction depicted with
  | nil => exact ⟨[], List.nil_sublist _, .nil⟩
  | cons first _ ih =>
    obtain ⟨here, within, own⟩ := first
    obtain ⟨later, inside, others⟩ := ih
    exact ⟨here ++ later, within.append inside, List.rel_append own others⟩

private theorem owns_of_depicts {tables : Tables} (node : SceneNode α) :
    ∀ element, FramesHold node → Depicts tables node element →
      ∃ owns, owns.Sublist (Element.preorder element) ∧
        List.Forall₂ (OwnElement tables) node.preorder owns := by
  induction node using SceneNode.memInduction with
  | step box children ih =>
    intro element holds depicts
    cases holds with
    | mk bare holds =>
      cases depicts with
      | @mk _ _ _ _ _ below boxed filled drawn =>
        obtain ⟨owns, within, each⟩ := owns_of_each
          (forall₂_imp_of_mem drawn fun node member element => ih node member element
            (holds node member))
        have alone : box.kind ≠ .frame → below = [] := by
          intro other
          rw [bare other] at drawn
          exact List.forall₂_nil_left_iff.mp drawn
        exact ⟨_, sublist_nodeElement tables box _ _ _ within, .cons (.mk boxed filled alone) each⟩

/-! ### Texts -/

/-- The text can be written and read back: a document keeps its characters, its segments tile them
if it has any, and the families of its fonts are on one line. -/
structure Writable (text : TextData α) : Prop where
  characters : Typography.Kept text.characters.toList
  tiled : text.segments = [] ∨ Typography.Tiles text.characters.toList.length 0 text.segments
  families : ∀ segment ∈ text.segments, ∀ font ∈ segment.fontName,
    Typography.Kept font.family.toList ∧ Flat font.family.toList

/-- The only attribute of the span is the style of the segment, and it spells the run. -/
structure ShowsSegment (characters : List Char) (segment : TextSegment α) (span : Element) :
    Prop where
  style : ∃ bag, Typography.segmentCss segment = .ok bag ∧
    span.head.attributes = [(.plain "style", bag.serialize)]
  spelled : span.spelled = Typography.segmentRun characters segment

/-- The element shows the text: it spells the characters, with a span for each segment in order.
Where the box is a flex container, the element holds one element and nothing else. -/
structure ShowsText (text : TextData α) (box : SceneBox α) (element : Element) : Prop where
  spelled : element.spelled = text.characters.toList
  spans : List.Forall₂ (ShowsSegment text.characters.toList) text.segments
    (element.preorder.filter (·.head.name == .plain "span"))
  single : box.declarations.get? "display" = some "flex" →
    element.head.text = [] ∧ ∃ item, element.children = [item] ∧ item.head.tail = []

private theorem showsSegment_of_isSpan {text : TextData α} (writable : Writable text)
    {segment : TextSegment α} (member : segment ∈ text.segments) {span : Element}
    (isSpan : Typography.IsSpan text.characters.toList segment span) :
    ShowsSegment text.characters.toList segment span := by
  refine ⟨?_, isSpan.spelled writable.characters.notMem⟩
  obtain ⟨styled, rfl⟩ := isSpan
  have flat := spaced_segmentCss (fun font known =>
    (writable.families segment member font known).2) styled
  exact ⟨_, styled, by rw [flat, String.ofList_toList]; rfl⟩

/-- What a text box holds in the content is what its text is shown as. -/
private theorem isTextContent_of_ownContent {template : String} {root : Affine α} {entry : Entry α}
    {box : SceneBox α} (compiled : CompiledAs template root entry box) (isText : box.kind = .text)
    {text : TextData α} (given : text ∈ entry.node.props.text) (writable : Writable text)
    {tables : Tables} (mode : tables.mode = .content) {content : Fragment}
    (filled : ownContent tables box = .ok content) :
    ∃ wrap, Typography.IsTextContent text wrap content ∧
      ∀ value, box.declarations.get? "display" = some value → wrap = true := by
  obtain ⟨_, same, wrap, markup, written, holds, flex⟩ := text_of_compiledAs compiled isText
  obtain rfl := Option.some.inj (same.symm.trans given)
  obtain ⟨⟨head, children⟩, read⟩ := Typography.exists_readDocument writable.characters
    (fun segment member font known => (writable.families segment member font known).1) written
  rw [ownContent, isText, holds, mode] at filled
  obtain ⟨_, -, filled⟩ := Except.bind_eq_ok_iff.mp filled
  -- The markup is well formed, so that it is not the plain text of it that is put in.
  obtain rfl : readFragment markup = content := Except.ok.inj filled
  rw [readFragment, read]
  exact ⟨wrap, Typography.isTextContent_of_readDocument written read, flex⟩

private theorem showsText_of_ownElement {template : String} {root : Affine α} {entry : Entry α}
    {box : SceneBox α} (compiled : CompiledAs template root entry box) (isText : box.kind = .text)
    {text : TextData α} (given : text ∈ entry.node.props.text) (writable : Writable text)
    {tables : Tables} (mode : tables.mode = .content) {element : Element}
    (own : OwnElement tables box element) : ShowsText text box element := by
  cases own with
  | @mk styling _ content _ _ filled alone =>
    -- A text has no boxes below it, so that its element holds its own content only.
    obtain rfl := alone (by rw [isText]; decide)
    obtain ⟨wrap, shown, flex⟩ :=
      isTextContent_of_ownContent compiled isText given writable mode filled
    have element : boxElement tables box styling content [] =
        .mk (ownHead tables.mode box styling content.text) content.elements := by
      rw [boxElement, List.append_nil]
      rfl
    -- The element of a box is neither a line break nor a span.
    have name : (ownHead tables.mode box styling content.text).name = .plain "div" := rfl
    rw [element]
    refine ⟨?_, ?_, fun declared => ?_⟩
    · rw [Element.spelled_mk _ (by rw [name]; decide)]
      exact shown.spelled writable.characters.notMem writable.tiled
    · rw [Element.preorder, List.filter_cons_of_neg (by rw [Element.head, name]; decide)]
      exact forall₂_imp_of_mem shown.forall₂_spans fun segment member span isSpan =>
        showsSegment_of_isSpan writable member isSpan
    · obtain rfl := flex _ declared
      exact shown.single

/-! ### Scenes -/

private theorem forall₂_pairs {β γ δ : Type} {R : β → γ → Prop} {S : γ → δ → Prop} {first : List β}
    {second : List γ} (left : List.Forall₂ R first second) :
    ∀ {third : List δ}, List.Forall₂ S second third → ∃ pairs, pairs.map Prod.fst = second ∧
      pairs.map Prod.snd = third ∧
      List.Forall₂ (fun item pair => R item pair.1 ∧ S pair.1 pair.2) first pairs := by
  induction left with
  | nil =>
    intro third right
    cases right
    exact ⟨[], rfl, rfl, .nil⟩
  | cons here _ ih =>
    intro third right
    cases right with
    | cons there later =>
      obtain ⟨pairs, rfl, rfl, each⟩ := ih later
      exact ⟨(_, _) :: pairs, rfl, rfl, .cons ⟨here, there⟩ each⟩

/-- Every box has an element of its own, in document order. -/
theorem exists_ownElements {template : String} {provider : FontProvider}
    {composition : Composition α} {scene : CompiledScene α} {mode : Mode} {settings : Settings}
    {markup : RenderedMarkup}
    (compiled : compileComposition template provider composition = .ok scene)
    (rendered : renderScene mode settings scene = .ok markup) :
    ∃ shown : List (SceneBox α × Element),
      shown.map Prod.fst = SceneNode.preorders scene.nodes ∧
      (shown.map Prod.snd).Sublist (Element.preorders markup.elements) ∧
      List.Forall₂ (fun entry own =>
          CompiledAs template composition.rootFrame entry own.1 ∧
          OwnElement (.ofScene mode settings scene.nodes) own.1 own.2)
        (EntryTree.preorders composition.walk) shown := by
  obtain ⟨owns, within, each⟩ := owns_of_each
    (forall₂_imp_of_mem (depicts_of_renderScene rendered) fun node member element =>
      owns_of_depicts node element (framesHold_of_compiled compiled node member))
  obtain ⟨shown, boxes, rfl, related⟩ :=
    forall₂_pairs (forall₂_preorders (follows_walk compiled)) each
  exact ⟨shown, boxes, within, related⟩

/-- In the content every box has an element of its own, in document order, and the elements of the
texts that can be written show them. -/
theorem texts_survive_markup {template : String} {provider : FontProvider}
    {composition : Composition α} {scene : CompiledScene α} {settings : Settings}
    {markup : RenderedMarkup}
    (compiled : compileComposition template provider composition = .ok scene)
    (rendered : renderScene .content settings scene = .ok markup) :
    ∃ shown : List (SceneBox α × Element),
      shown.map Prod.fst = SceneNode.preorders scene.nodes ∧
      (shown.map Prod.snd).Sublist (Element.preorders markup.elements) ∧
      List.Forall₂ (fun entry own =>
          CompiledAs template composition.rootFrame entry own.1 ∧
          OwnElement (.ofScene .content settings scene.nodes) own.1 own.2 ∧
          (entry.isGroup = false → NodeKind.ofNode entry.node.props = .text →
            ∀ text ∈ entry.node.props.text, Writable text → ShowsText text own.1 own.2))
        (EntryTree.preorders composition.walk) shown := by
  obtain ⟨shown, boxes, within, related⟩ := exists_ownElements compiled rendered
  refine ⟨shown, boxes, within, related.imp fun entry own ⟨compiledAs, carries⟩ => ?_⟩
  refine ⟨compiledAs, carries, fun alone isText text given writable => ?_⟩
  have kind : own.1.kind = .text := by simp [(shows_of_compiledAs compiledAs).kind, alone, isText]
  exact showsText_of_ownElement compiledAs kind given writable rfl carries

/-! ### A text with markup and line breaks -/

/-- A segment that names no font. -/
def bareSegment (start : Int) (stop : Option Int) : TextSegment Rat :=
  { labelSegment "" with start, stop, fontSize := none, fontName := none }

/-- A text at the bottom of its box, in three segments of which one has no characters. -/
def noteText : TextData Rat :=
  { labelText "" with
    characters := "a<b\n\n]]>"
    segments :=
      [{ labelSegment "Open Sans" with stop := some 4 }, bareSegment 4 (some 4),
       bareSegment (-4) none]
    alignVertical := some "BOTTOM" }

def noteProps : NodeProps Rat :=
  { plainProps "note" "TEXT" ⟨1, 0, 0, 1, 0, 0⟩ with text := some noteText }

def noteSketch : Composition Rat := { labelSketch "" with children := [.mk noteProps []] }

private theorem writable_noteText : Writable noteText where
  characters := by decide
  tiled := .inr (by decide)
  families := by decide

theorem noteSketch_survives :
    ∃ scene markup box element,
      compileComposition "" (fun _ => none) noteSketch = .ok scene ∧
      renderScene .content .default scene = .ok markup ∧
      SceneNode.preorders scene.nodes = [box] ∧ element ∈ Element.preorders markup.elements ∧
      box.declarations.get? "display" = some "flex" ∧ ShowsText noteText box element := by
  obtain ⟨scene, compiled, drawn⟩ := Except.exists_of_any
    (fun scene => (SceneNode.preorders scene.nodes).all
        (fun box => box.declarations.get? "display" == some "flex") &&
      (renderScene .content .default scene).toOption.any fun _ => true)
    (show (compileComposition "" (fun _ => none) noteSketch).toOption.any _ = true by
      decide +kernel)
  simp only [Bool.and_eq_true, List.all_eq_true, beq_iff_eq] at drawn
  obtain ⟨flex, drawn⟩ := drawn
  obtain ⟨markup, rendered, -⟩ := Except.exists_of_any _ drawn
  obtain ⟨shown, boxes, within, each⟩ := texts_survive_markup compiled rendered
  have only : EntryTree.preorders noteSketch.walk =
      [⟨.mk noteProps [], false, [], none⟩] := rfl
  rw [only] at each
  cases each with
  | cons first none =>
    cases none
    obtain ⟨-, -, survives⟩ := first
    exact ⟨scene, markup, _, _, compiled, rendered, boxes.symm, within.subset (.head _),
      flex _ (boxes ▸ .head _), survives rfl rfl noteText rfl writable_noteText⟩

end Render

end Artboard
