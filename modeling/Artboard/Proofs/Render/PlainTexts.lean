import Artboard.Proofs.Render.Texts
import Artboard.Proofs.Typography.PlainText

/-!
# Texts that no document may contain

A text with a control character has markup that is not well formed, and its element
holds plain text. All characters of its runs are there in order, apart from the line
breaks, so that only a text on one line is kept.
-/
namespace Artboard.Render

open Markup Typography

variable {α : Type} [Scalar α]

/-- The element holds characters only: those of the runs of the text without the line breaks. It
spells the runs exactly where they have no line break. -/
structure ShowsPlainly (text : TextData α) (element : Element) : Prop where
  bare : element.children = []
  spelled : element.spelled = withoutBreaks (shownRuns text)
  keeps : element.spelled = shownRuns text ↔ '\n' ∉ shownRuns text

private theorem withoutBreaks_eq_self_iff {text : List Char} :
    withoutBreaks text = text ↔ '\n' ∉ text := by
  rw [withoutBreaks, List.filter_eq_self]
  constructor
  · intro kept member
    simpa using kept _ member
  · intro flat c member
    have other : c ≠ '\n' := fun same => flat (same ▸ member)
    simpa using other

/-- An element without children that is no line break spells its own text. -/
private theorem spelled_of_bare {element : Element} (bare : element.children = [])
    (other : element.head.name ≠ .plain "br") : element.spelled = element.head.text := by
  obtain ⟨head, children⟩ := element
  obtain rfl : children = [] := bare
  exact (Element.spelled_mk [] other).trans (List.append_nil _)

private theorem showsPlainly_of_ownElement {tables : Tables} (mode : tables.mode = .content)
    {box : SceneBox α} (isText : box.kind = .text) {text : TextData α} {wrap : Bool}
    {markup : String} (written : textMarkup text wrap = .ok markup)
    (holds : box.content = .text markup) (unreadable : readDocument (wrapped markup) = none)
    {element : Element} (own : OwnElement tables box element) : ShowsPlainly text element := by
  cases own with
  | @mk styling _ content _ _ filled alone =>
    obtain rfl := alone (by rw [isText]; decide)
    rw [ownContent, isText, holds, mode] at filled
    obtain ⟨_, -, filled⟩ := Except.bind_eq_ok_iff.mp filled
    -- The markup cannot be read, so that its plain text is put in.
    obtain rfl : readFragment markup = content := Except.ok.inj filled
    rw [readFragment, unreadable, plainText_textMarkup written]
    have name : (boxElement tables box styling ⟨withoutBreaks (shownRuns text), []⟩ []).head.name =
        .plain "div" := rfl
    have spelled := spelled_of_bare rfl (show _ ≠ Name.plain "br" by rw [name]; decide)
    exact ⟨rfl, spelled, by rw [spelled]; exact withoutBreaks_eq_self_iff⟩

/-- In the content every box has an element of its own, in document order. A text whose markup is
not well formed is shown plainly there: its line breaks are lost, and nothing else. -/
theorem unreadable_texts_lose_breaks {template : String} {provider : FontProvider}
    {composition : Composition α} {scene : CompiledScene α} {settings : Settings}
    {markup : RenderedMarkup}
    (compiled : compileComposition template provider composition = .ok scene)
    (rendered : renderScene .content settings scene = .ok markup) :
    ∃ shown : List (SceneBox α × Element),
      shown.map Prod.fst = SceneNode.preorders scene.nodes ∧
      (shown.map Prod.snd).Sublist (Element.preorders markup.elements) ∧
      List.Forall₂ (fun entry own =>
          CompiledAs template composition.rootFrame entry own.1 ∧
          OwnElement (.ofScene .content settings scene.nodes) own.1 own.2 ∧
          (entry.isGroup = false → NodeKind.ofNode entry.node.props = .text →
            ∃ text ∈ entry.node.props.text, ∃ wrap written,
              textMarkup text wrap = .ok written ∧ own.1.content = .text written ∧
              (readDocument (wrapped written) = none → ShowsPlainly text own.2)))
        (EntryTree.preorders composition.walk) shown := by
  obtain ⟨shown, boxes, within, related⟩ := exists_ownElements compiled rendered
  refine ⟨shown, boxes, within, related.imp fun entry own ⟨compiledAs, carries⟩ => ?_⟩
  refine ⟨compiledAs, carries, fun alone isText => ?_⟩
  have kind : own.1.kind = .text := by simp [(shows_of_compiledAs compiledAs).kind, alone, isText]
  obtain ⟨text, given, wrap, written, marked, holds, -⟩ := text_of_compiledAs compiledAs kind
  exact ⟨text, given, wrap, written, marked, holds, fun unreadable =>
    showsPlainly_of_ownElement rfl kind marked holds unreadable carries⟩

/-! ### A text with a control character -/

/-- A text in two segments. -/
def controlText (characters : String) : TextData Rat :=
  { noteText with
    characters, segments := [bareSegment 0 (some 2), bareSegment 2 none], alignVertical := none }

def controlProps (characters : String) : NodeProps Rat :=
  { noteProps with text := some (controlText characters) }

def controlSketch (characters : String) : Composition Rat :=
  { noteSketch with children := [.mk (controlProps characters) []] }

/-- The only box holds markup that is not well formed, and the element of the scene spells this. -/
def spellsPlainly (spelled : String) (scene : CompiledScene Rat) : Bool :=
  (SceneNode.preorders scene.nodes).all (fun box =>
    match box.content with
    | .text written => (readDocument (wrapped written)).isNone
    | _ => false) &&
  (renderScene .content .default scene).toOption.any fun markup =>
    markup.elements.map Element.spelled == [spelled.toList]

private theorem exists_controlSketch {characters spelled : String}
    (shows : (compileComposition "" (fun _ => none) (controlSketch characters)).toOption.any
      (spellsPlainly spelled) = true) :
    ∃ scene markup, compileComposition "" (fun _ => none) (controlSketch characters) = .ok scene ∧
      renderScene .content .default scene = .ok markup ∧
      markup.elements.map Element.spelled = [spelled.toList] ∧
      ∀ box ∈ SceneNode.preorders scene.nodes, ∀ written, box.content = .text written →
        readDocument (wrapped written) = none := by
  obtain ⟨scene, compiled, known⟩ := Except.exists_of_any _ shows
  simp only [spellsPlainly, Bool.and_eq_true, List.all_eq_true] at known
  obtain ⟨unreadable, drawn⟩ := known
  obtain ⟨markup, rendered, same⟩ := Except.exists_of_any _ drawn
  refine ⟨scene, markup, compiled, rendered, beq_iff_eq.mp same, fun box member written holds => ?_⟩
  have none := unreadable box member
  rw [holds] at none
  exact Option.isNone_iff_eq_none.mp none

theorem controlSketch_shows_plainly :
    ∃ scene markup box element,
      compileComposition "" (fun _ => none) (controlSketch "a<\u0001&b") = .ok scene ∧
      renderScene .content .default scene = .ok markup ∧
      SceneNode.preorders scene.nodes = [box] ∧ element ∈ Element.preorders markup.elements ∧
      (∃ written, box.content = .text written ∧ readDocument (wrapped written) = none) ∧
      ShowsPlainly (controlText "a<\u0001&b") element := by
  obtain ⟨scene, markup, compiled, rendered, -, unreadable⟩ :=
    exists_controlSketch (show _ = true by decide +kernel :
      (compileComposition "" (fun _ => none) (controlSketch "a<\u0001&b")).toOption.any
        (spellsPlainly "a<\u0001&b") = true)
  obtain ⟨shown, boxes, within, each⟩ := unreadable_texts_lose_breaks compiled rendered
  have only : EntryTree.preorders (controlSketch "a<\u0001&b").walk =
      [⟨.mk (controlProps "a<\u0001&b") [], false, [], none⟩] := rfl
  rw [only] at each
  cases each with
  | cons first none =>
    cases none
    obtain ⟨-, -, survives⟩ := first
    obtain ⟨text, given, _, written, -, holds, plainly⟩ := survives rfl rfl
    obtain rfl := Option.some.inj given
    have missing := unreadable _ (boxes ▸ .head _) written holds
    exact ⟨scene, markup, _, _, compiled, rendered, boxes.symm, within.subset (.head _),
      ⟨written, holds, missing⟩, plainly missing⟩

/-- A text of two lines with a control character is shown on one line. -/
theorem control_character_loses_break :
    ∃ scene markup, compileComposition "" (fun _ => none) (controlSketch "a\nb\u0001") = .ok scene ∧
      (∀ box ∈ SceneNode.preorders scene.nodes, ∀ written, box.content = .text written →
        readDocument (wrapped written) = none) ∧
      renderScene .content .default scene = .ok markup ∧
      shownRuns (controlText "a\nb\u0001") = "a\nb\u0001".toList ∧
      markup.elements.map Element.spelled = ["ab\u0001".toList] := by
  obtain ⟨scene, markup, compiled, rendered, spelled, unreadable⟩ :=
    exists_controlSketch (show _ = true by decide +kernel :
      (compileComposition "" (fun _ => none) (controlSketch "a\nb\u0001")).toOption.any
        (spellsPlainly "ab\u0001") = true)
  exact ⟨scene, markup, compiled, unreadable, rendered, by decide, spelled⟩

end Artboard.Render
