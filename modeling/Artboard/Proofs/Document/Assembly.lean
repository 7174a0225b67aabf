import Artboard.Document.Page
import Artboard.Proofs.Render.Overlay
import Artboard.Proofs.Render.Renaming

/-!
# Assembled documents

A document is assembled from the drawings of its scene, its viewport and the links
of its fonts, and nothing else of the scene. A scene with other names has the same
document, but for the elements in it.
-/
namespace Artboard.Document

open Render

variable {α : Type}

/-- The document that is assembled from what is computed for a scene. -/
def documentOf [Scalar α] (title : String) (scene : CompiledScene α) (viewport : Viewport)
    (content : RenderedMarkup) (overlay : Option RenderedMarkup) (links : List String) :
    RenderedDocument where
  html := shellHtml false content.elements
  css := joinSheets [baseSheet, shellCss viewport scene.bounds, content.css]
  overlayHtml := overlay.elim "" fun overlay => shellHtml true overlay.elements
  overlayCss := overlay.elim "" fun _ =>
    joinSheets [baseSheet, shellCss viewport scene.bounds, overlaySheet]
  viewport
  title
  fontLinks := links

/-- The overlay of a document, if it has one. -/
def overlayOf [Scalar α] (settings : Settings) (scene : CompiledScene α) :
    Except Fault (Option RenderedMarkup) :=
  if settings.debugEnabled then (renderScene .overlay settings scene).map some else .ok none

section Assembled

variable [Scalar α] {settings : Settings} {title : String} {scene : CompiledScene α}
  {document : RenderedDocument}

theorem assemble_eq_ok_iff :
    assemble settings title scene = .ok document ↔
      scene.nodes.isEmpty = false ∧ ∃ padding viewport content overlay links,
        numberOfInt settings.outlinePadding = .ok padding ∧
        Viewport.compute scene.bounds scene.union padding = .ok viewport ∧
        renderScene .content settings scene = .ok content ∧
        overlayOf settings scene = .ok overlay ∧
        fontLinks scene.fontUrl scene.providedUrls = .ok links ∧
        document = documentOf title scene viewport content overlay links := by
  unfold assemble overlayOf
  cases scene.nodes.isEmpty with
  | true =>
    simp only [if_true, Bool.true_eq_false, false_and, iff_false]
    exact fun assembled => by cases assembled
  | false =>
    simp only [Bool.false_eq_true, if_false, true_and, Except.bind_eq_ok_iff]
    -- What follows the content draws the overlay or leaves it out.
    cases settings.debugEnabled
    all_goals
      simp only [Bool.false_eq_true, if_true, if_false, Except.bind_eq_ok_iff]
      constructor
      · rintro ⟨padding, padded, viewport, seen, content, drawn, overlay, beside, links, linked,
          made⟩
        refine ⟨padding, viewport, content, overlay, links, padded, seen, drawn, beside, linked, ?_⟩
        cases overlay <;> exact (Except.ok.inj made).symm
      · rintro ⟨padding, viewport, content, overlay, links, padded, seen, drawn, beside, linked,
          rfl⟩
        refine ⟨padding, padded, viewport, seen, content, drawn, overlay, beside, links, linked, ?_⟩
        cases overlay <;> rfl

theorem overlayOf_returns {content : RenderedMarkup}
    (rendered : renderScene .content settings scene = .ok content) :
    ∃ overlay, overlayOf settings scene = .ok overlay ∧
      overlay.isSome = settings.debugEnabled := by
  rw [overlayOf]
  cases settings.debugEnabled with
  | false => exact ⟨none, rfl, rfl⟩
  | true =>
    obtain ⟨overlay, shown⟩ := overlay_returns rendered
    exact ⟨some overlay, by rw [if_pos rfl, shown]; rfl, rfl⟩

/-- A scene that shows something has a document where its viewport, its content and the links of its
fonts are known. The overlay fails only where the content does. -/
theorem assemble_returns {padding : α} {viewport : Viewport} {content : RenderedMarkup}
    {links : List String} (shown : scene.nodes.isEmpty = false)
    (padded : numberOfInt settings.outlinePadding = .ok padding)
    (seen : Viewport.compute scene.bounds scene.union padding = .ok viewport)
    (rendered : renderScene .content settings scene = .ok content)
    (linked : fontLinks scene.fontUrl scene.providedUrls = .ok links) :
    ∃ overlay, ∀ title, assemble settings title scene =
      .ok (documentOf title scene viewport content overlay links) := by
  obtain ⟨overlay, beside, -⟩ := overlayOf_returns rendered
  exact ⟨overlay, fun title => assemble_eq_ok_iff.mpr ⟨shown, padding, viewport, content, overlay,
    links, padded, seen, rendered, beside, linked, rfl⟩⟩

/-- A scene with other names has the document of the scene, but for the elements in it. -/
theorem assemble_of_unnamed_eq {other : CompiledScene α} (same : other.unnamed = scene.unnamed)
    (assembled : assemble settings title scene = .ok document) :
    ∃ redone, assemble settings title other = .ok redone ∧
      document = { redone with html := document.html, overlayHtml := document.overlayHtml } := by
  obtain ⟨given, padding, viewport, content, overlay, links, padded, seen, rendered, beside, linked,
    rfl⟩ := assemble_eq_ok_iff.mp assembled
  obtain ⟨twin, -, -, redrawn, css, -⟩ := renamed_of_renderScene same rendered
  obtain ⟨first, shown, optional⟩ := overlayOf_returns rendered
  obtain ⟨overlay', beside', optional'⟩ := overlayOf_returns redrawn
  obtain rfl := Except.ok.inj (shown.symm.trans beside)
  -- The scenes agree on all that is read of them here.
  have nodes : SceneNode.unnamedAll other.nodes = SceneNode.unnamedAll scene.nodes :=
    congrArg CompiledScene.nodes same
  have empty : other.nodes.isEmpty = scene.nodes.isEmpty := by
    simpa [SceneNode.unnamedAll_eq_map] using congrArg List.isEmpty nodes
  have bounds : other.bounds = scene.bounds := congrArg (·.bounds) same
  have union : other.union = scene.union := congrArg (·.union) same
  have fonts : other.fontUrl = scene.fontUrl := congrArg (·.fontUrl) same
  have provided : other.providedUrls = scene.providedUrls := congrArg (·.providedUrls) same
  refine ⟨documentOf title other viewport twin overlay' links, assemble_eq_ok_iff.mpr
    ⟨empty.trans given, padding, viewport, twin, overlay', links, padded, ?_, redrawn, beside', ?_,
      rfl⟩, ?_⟩
  · rw [bounds, union, seen]
  · rw [fonts, provided, linked]
  · have sheets (sheet : String) :
        (overlay'.elim "" fun _ => sheet) = first.elim "" fun _ => sheet := by
      have both := optional'.trans optional.symm
      cases overlay' <;> cases first <;> first | rfl | cases both
    rw [documentOf, documentOf, bounds, css, sheets]

end Assembled

end Artboard.Document
