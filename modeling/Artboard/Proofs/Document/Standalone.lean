import Artboard.Proofs.Document.Assembly
import Artboard.Proofs.Markup.Pieces

/-!
# Pages that stand alone

The body of a page is the fragment of its document with its lines indented, piece
by piece: attribute values and texts without a line boundary are the same in both,
and no piece differs in more than blanks. A text may hold other line boundaries
than line feeds, and these are lost in the page.
-/
namespace Artboard.Document

open Markup Render

/-! ### The body of a page -/

/-- The lines of a page before its body. -/
def RenderedDocument.start (document : RenderedDocument) (overlay : Bool) : String :=
  String.join ((["<!DOCTYPE html>", "<html lang=\"en\">", "<head>"] ++
    (document.headItems overlay).map (fun item => "  " ++ item) ++ ["</head>", "<body>"]).map
      fun line => line ++ "\n")

/-- The fragment that a page is made from. -/
def RenderedDocument.fragment (document : RenderedDocument) (overlay : Bool) : String :=
  if overlay then document.overlayHtml else document.html

private theorem intercalate_append (lines : List String) {rest : List String}
    (inhabited : rest ≠ []) :
    String.intercalate "\n" (lines ++ rest) =
      String.join (lines.map fun line => line ++ "\n") ++ String.intercalate "\n" rest := by
  induction lines with
  | nil => simp
  | cons line lines ih =>
    rw [List.cons_append, String.intercalate_cons_of_ne_nil (by simp [inhabited]), ih, List.map_cons,
      String.join_cons]
    simp only [String.append_assoc]

theorem page_eq (document : RenderedDocument) (overlay : Bool) :
    document.page overlay =
      document.start overlay ++ indentLines "  " (document.fragment overlay) ++
        "\n</body>\n</html>\n" := by
  rw [RenderedDocument.page, RenderedDocument.start, RenderedDocument.fragment]
  generalize (if overlay then document.overlayHtml else document.html) = body
  generalize ["<!DOCTYPE html>", "<html lang=\"en\">", "<head>"] ++
    (document.headItems overlay).map (fun item => "  " ++ item) = lines
  have split : lines ++ ["</head>", "<body>", indentLines "  " body, "</body>", "</html>"] =
      (lines ++ ["</head>", "<body>"]) ++ [indentLines "  " body, "</body>", "</html>"] := by simp
  rw [split, intercalate_append _ (by simp)]
  simp only [String.intercalate_cons_cons, String.intercalate_singleton, String.append_assoc]
  rfl

/-- The tree that the fragment of a document is written from. -/
def fragmentTree (overlay : Bool) (elements : List Element) : Element :=
  ((shell overlay elements).indent indentUnit 0).withTail []

theorem shellHtml_eq (overlay : Bool) (elements : List Element) :
    shellHtml overlay elements = String.ofList (fragmentTree overlay elements).html := by
  rw [shellHtml, serialize]
  simp [fragmentTree, indentation]

private theorem name_indent (unit : List Char) (level : Int) (element : Element) :
    (element.indent unit level).head.name = element.head.name := by
  obtain ⟨head, children⟩ := element
  rw [Element.indent]
  split <;> split <;> rfl

/-- The fragment starts with a tag and ends with one. -/
private theorem html_fragmentTree (overlay : Bool) (elements : List Element) :
    ∃ inner, (fragmentTree overlay elements).html = '<' :: (inner ++ ['>']) := by
  have named : (fragmentTree overlay elements).head.name = .plain "div" := by
    have name := name_indent indentUnit 0 (shell overlay elements)
    rw [fragmentTree]
    generalize (shell overlay elements).indent indentUnit 0 = tree at name
    cases tree
    exact name
  have ended : (fragmentTree overlay elements).head.tail = [] := by
    rw [fragmentTree]
    cases (shell overlay elements).indent indentUnit 0
    rfl
  generalize fragmentTree overlay elements = tree at named ended
  obtain ⟨head, children⟩ := tree
  simp only [Element.head] at named ended
  rw [Element.html, writeElement, writeStart, writeEnd, named, ended]
  have closing (prefixes : Prefixes) : writtenName prefixes (.plain "div") = "div".toList := rfl
  have kind : voidElements.contains (kindOf "div".toList) = false := by decide
  rw [closing, kind]
  refine ⟨"div".toList ++ (declarePrefixes (prefixesOf (.mk head children)) ++
    (head.attributes.flatMap (writeAttribute (prefixesOf (.mk head children))) ++
      '>' :: writeText (kindOf "div".toList) head.text)) ++
    writeElements (prefixesOf (.mk head children)) children "</div".toList, ?_⟩
  have last := writeElements_append (prefixesOf (.mk head children)) children "</div".toList ['>']
  simp only [List.cons_append, List.append_assoc, ← last]
  rfl

private theorem trim_eq_self (inner : List Char) :
    Text.trim ('<' :: (inner ++ ['>'])) = '<' :: (inner ++ ['>']) := by
  have opening : Text.isBlank '<' = false := by decide
  have closing : Text.isBlank '>' = false := by decide
  simp [Text.trim, Text.trimLeft, Text.trimRight, opening, closing]

private theorem indentLines_eq (start : String) (inner : List Char) :
    indentLines start (String.ofList ('<' :: (inner ++ ['>']))) =
      start ++ String.ofList (Text.reflowed start.toList ('<' :: (inner ++ ['>']))) := by
  have opening : Text.isLineBoundary '<' = false := by decide
  have closing : Text.isLineBoundary '>' = false := by decide
  have ends : ('<' :: (inner ++ ['>'])).getLast? = some '>' := by simp [List.getLast?_cons]
  have lines : Text.joined start.toList (Text.lines ('<' :: (inner ++ ['>']))) =
      start.toList ++ Text.reflowed start.toList ('<' :: (inner ++ ['>'])) := by
    refine Text.joined_lines (by simp [Text.opensLine, opening]) fun c last => ?_
    rw [ends] at last
    cases last
    exact closing
  apply String.toList_injective
  rw [indentLines, String.toList_append, String.toList_ofList, String.toList_ofList, ← lines,
    trim_eq_self, String.toList_intercalate, Text.joined, List.map_map]
  congr 2
  funext line
  cases line <;> simp

/-! ### Pages and fragments -/

/-- The body is the markup of the tree with its lines indented, piece by piece: each attribute value
and each text without a line boundary is the same in both, and no piece differs in more than
blanks. -/
def BodyOf (tree : Element) (body : String) : Prop :=
  ∃ pieces, List.Forall₂ Piece.Reflows tree.pieces pieces ∧
    body = "  " ++ String.ofList (writtenAll pieces)

private theorem body_shellHtml (overlay : Bool) (elements : List Element) :
    indentLines "  " (shellHtml overlay elements) =
      "  " ++ String.ofList (Text.reflowed "  ".toList (fragmentTree overlay elements).html) := by
  obtain ⟨inner, html⟩ := html_fragmentTree overlay elements
  rw [shellHtml_eq, html, indentLines_eq]

private theorem bodyOf_shellHtml (overlay : Bool) (elements : List Element) :
    BodyOf (fragmentTree overlay elements) (indentLines "  " (shellHtml overlay elements)) := by
  obtain ⟨pieces, reflows, same⟩ := exists_reflows_pieces
    (show Text.allBlank "  ".toList = true by decide) (fragmentTree overlay elements).pieces
  exact ⟨pieces, reflows, by rw [body_shellHtml, html_eq_written, same]⟩

/-- The mode that a page shows. -/
def pageMode (overlay : Bool) : Mode := if overlay then .overlay else .content

variable {α : Type} [Scalar α]

/-- The fragment is the markup of a drawing of the composition, and the page has its lines for a
body. Without an overlay there is neither a fragment nor a body for it. -/
def KeepsFragment (settings : Settings) (provider : FontProvider) (composition : Composition α)
    (document : RenderedDocument) (overlay : Bool) : Prop :=
  ∃ body, document.page overlay = document.start overlay ++ body ++ "\n</body>\n</html>\n" ∧
    (overlay = true ∧ settings.debugEnabled = false ∧ document.fragment overlay = "" ∧ body = "" ∨
      ∃ scene markup,
        compileComposition settings.imageUrlTemplate provider composition = .ok scene ∧
        renderScene (pageMode overlay) settings scene = .ok markup ∧
        document.fragment overlay = String.ofList (fragmentTree overlay markup.elements).html ∧
        BodyOf (fragmentTree overlay markup.elements) body)

/-- The pages of every document that is rendered keep their fragments. -/
theorem page_keeps_fragment {settings : Settings} {provider : FontProvider}
    {composition : Composition α} {document : RenderedDocument}
    (rendered : render settings provider composition = .ok document) (overlay : Bool) :
    KeepsFragment settings provider composition document overlay := by
  obtain ⟨scene, compiled, assembled⟩ := Except.bind_eq_ok_iff.mp rendered
  obtain ⟨-, padding, viewport, content, shown, links, -, -, drawn, beside, -, rfl⟩ :=
    assemble_eq_ok_iff.mp assembled
  refine ⟨_, page_eq _ overlay, ?_⟩
  cases overlay with
  | false =>
    exact .inr ⟨scene, content, compiled, drawn, shellHtml_eq _ _, bodyOf_shellHtml _ _⟩
  | true =>
    rw [overlayOf] at beside
    cases debug : settings.debugEnabled with
    | false =>
      rw [debug] at beside
      cases beside
      exact .inl ⟨rfl, rfl, rfl, rfl⟩
    | true =>
      rw [debug, if_pos rfl] at beside
      cases drawn : renderScene .overlay settings scene with
      | error fault =>
        rw [drawn] at beside
        cases beside
      | ok markup =>
        rw [drawn] at beside
        cases beside
        exact .inr ⟨scene, markup, compiled, drawn, shellHtml_eq _ _, bodyOf_shellHtml _ _⟩

/-- A text without segments. -/
def noteSketch (characters : String) : Composition Rat where
  name := "note"
  absOrigin := some ⟨0, 0⟩
  bounds := none
  children := [.mk { plainProps "note" "TEXT" ⟨1, 0, 0, 1, 0, 0⟩ with
    text := some
      { characters, segments := [], alignHorizontal := none, alignVertical := none
        autoResize := none, truncation := none, paragraphIndent := 0 } } []]

/-- The document of the note can be made, and the text of the note is a text of its fragment. -/
def showsNote (characters : String) (scene : CompiledScene Rat) : Bool :=
  !scene.nodes.isEmpty &&
    ((numberOfInt Settings.default.outlinePadding).toOption.any fun padding =>
      (Viewport.compute scene.bounds scene.union padding).toOption.any fun _ => true) &&
    ((renderScene .content .default scene).toOption.any fun markup =>
      decide (.data false characters.toList ∈ (fragmentTree false markup.elements).pieces)) &&
    (fontLinks scene.fontUrl scene.providedUrls).toOption.any fun _ => true

private theorem exists_note (characters : String) (shows : (compileComposition
    Settings.default.imageUrlTemplate (fun _ => none) (noteSketch characters)).toOption.any
      (showsNote characters) = true) :
    ∃ document scene markup, render .default (fun _ => none) (noteSketch characters) = .ok document ∧
      compileComposition Settings.default.imageUrlTemplate (fun _ => none) (noteSketch characters) =
        .ok scene ∧
      renderScene .content .default scene = .ok markup ∧
      .data false characters.toList ∈ (fragmentTree false markup.elements).pieces ∧
      document.html = shellHtml false markup.elements := by
  obtain ⟨scene, compiled, known⟩ := Except.exists_of_any _ shows
  simp only [showsNote, Bool.and_eq_true, Bool.not_eq_true'] at known
  obtain ⟨⟨⟨given, padded⟩, drawn⟩, linked⟩ := known
  obtain ⟨padding, padded, seen⟩ := Except.exists_of_any _ padded
  obtain ⟨viewport, seen, -⟩ := Except.exists_of_any _ seen
  obtain ⟨markup, drawn, held⟩ := Except.exists_of_any _ drawn
  obtain ⟨links, linked, -⟩ := Except.exists_of_any _ linked
  obtain ⟨overlay, assembled⟩ := assemble_returns given padded seen drawn linked
  exact ⟨_, scene, markup, Except.bind_eq_ok_iff.mpr ⟨scene, compiled, assembled _⟩, compiled, drawn,
    of_decide_eq_true held, rfl⟩

theorem note_keeps_fragment :
    ∃ document, render .default (fun _ => none) (noteSketch "ab") = .ok document ∧
      KeepsFragment .default (fun _ => none) (noteSketch "ab") document false := by
  obtain ⟨document, -, -, rendered, -⟩ := exists_note "ab" (by decide +kernel)
  exact ⟨document, rendered, page_keeps_fragment rendered false⟩

/-- A line separator in a text is not in the page. -/
theorem lineSeparator_is_lost :
    ∃ document scene markup body,
      render .default (fun _ => none) (noteSketch "a\u2028b") = .ok document ∧
      compileComposition Settings.default.imageUrlTemplate (fun _ => none)
        (noteSketch "a\u2028b") = .ok scene ∧
      renderScene .content .default scene = .ok markup ∧
      document.fragment false = String.ofList (fragmentTree false markup.elements).html ∧
      .data false "a\u2028b".toList ∈ (fragmentTree false markup.elements).pieces ∧
      document.page false = document.start false ++ body ++ "\n</body>\n</html>\n" ∧
      '\u2028' ∉ body.toList := by
  obtain ⟨document, scene, markup, rendered, compiled, drawn, held, html⟩ :=
    exists_note "a\u2028b" (by decide +kernel)
  refine ⟨document, scene, markup, _, rendered, compiled, drawn, html.trans (shellHtml_eq _ _),
    held, page_eq document false, fun member => ?_⟩
  have fragment : document.fragment false = shellHtml false markup.elements := html
  rw [fragment, body_shellHtml, String.toList_append, List.mem_append] at member
  have indents : ∀ c ∈ "  ".toList, Text.isLineBoundary c = false :=
    Text.unbroken_of_all (by decide)
  rcases member with start | inside
  · exact absurd (indents _ start) (by decide)
  · rw [String.toList_ofList] at inside
    have feed := Text.eq_lineFeed_of_mem_reflowed indents inside (by decide)
    exact absurd feed (by decide)

end Artboard.Document
