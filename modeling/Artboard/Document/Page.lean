import Artboard.Document.Stylesheet
import Artboard.Document.Viewport
import Artboard.Render.Markup
import Artboard.Text.Lines

/-!
# Documents

A document is the content of a composition in its shell with its stylesheet and,
where it is wanted, the overlay with its own. Either can be written as a page
that stands alone.
-/
namespace Artboard.Document

open Markup

variable {α : Type} [Scalar α]

/-- The shell around the elements of a composition. -/
def shell (overlay : Bool) (elements : List Element) : Element :=
  let mark := if overlay then [("data-debug", "true")] else []
  .plain "div" [("class", "viewport")]
    [.plain "div" [("class", "view-offset")]
      [.plain "div" ([("class", "composition"), ("data-design-render", "")] ++ mark)
        [.plain "div" [("class", "content-layer")] elements]]]

def indentUnit : List Char := [' ', ' ']

def shellHtml (overlay : Bool) (elements : List Element) : String :=
  String.ofList (serialize indentUnit 0 [shell overlay elements])

/-- Stylesheets that are not blank, trimmed and separated by blank lines. -/
def joinSheets (sheets : List String) : String :=
  let trimmed := sheets.map fun sheet => String.ofList (Text.trim sheet.toList)
  Render.joinGiven "\n\n" trimmed ++ "\n"

structure RenderedDocument where
  html : String
  css : String
  overlayHtml : String
  overlayCss : String
  viewport : Viewport
  title : String
  fontLinks : List String

/-- Draws a scene and puts it into its shell. -/
def assemble (settings : Settings) (title : String) (scene : CompiledScene α) :
    Except Fault RenderedDocument := do
  if scene.nodes.isEmpty then .error (.violation .nothingVisible)
  let viewport ← Viewport.compute scene.bounds scene.union (← numberOfInt settings.outlinePadding)
  let measures := shellCss viewport scene.bounds
  let content ← Render.renderScene .content settings scene
  let overlay ←
    if settings.debugEnabled then
      (Render.renderScene .overlay settings scene).map some
    else .ok none
  let fontLinks ← fontLinks scene.fontUrl scene.providedUrls
  return {
    html := shellHtml false content.elements
    css := joinSheets [baseSheet, measures, content.css]
    overlayHtml := match overlay with
      | some overlay => shellHtml true overlay.elements
      | none => ""
    overlayCss := match overlay with
      | some _ => joinSheets [baseSheet, measures, overlaySheet]
      | none => ""
    viewport
    title
    fontLinks }

/-- Indents the lines of a text that are not empty. -/
def indentLines (start : String) (text : String) : String :=
  String.intercalate "\n" ((Text.lines (Text.trim text.toList)).map fun line =>
    if line.isEmpty then "" else start ++ String.ofList line)

namespace RenderedDocument

/-- The head of a page; the overlay loads no fonts. -/
def headItems (document : RenderedDocument) (overlay : Bool) : List String :=
  let css := if overlay then document.overlayCss else document.css
  let title := String.ofList (Text.escapeQuotes document.title.toList)
  ["<meta charset=\"utf-8\"/>", s!"<title>{title}</title>"] ++
    (if overlay then [] else document.fontLinks) ++
    ["<style>\n" ++ indentLines "    " css ++ "\n  </style>"]

/-- A page that stands alone. -/
def page (document : RenderedDocument) (overlay : Bool) : String :=
  let body := if overlay then document.overlayHtml else document.html
  let lines := ["<!DOCTYPE html>", "<html lang=\"en\">", "<head>"] ++
    (document.headItems overlay).map (fun item => "  " ++ item) ++
    ["</head>", "<body>", indentLines "  " body, "</body>", "</html>"]
  String.intercalate "\n" lines ++ "\n"

/-- The files of a document: what each one is, its name and its text. -/
def files (document : RenderedDocument) (withOverlay : Bool) : List (String × String × String) :=
  [("html", "index.html", document.page false), ("css", "styles.css", document.css)] ++
    if withOverlay then
      [("debug_html", "debug.html", document.page true),
       ("debug_css", "debug.css", document.overlayCss)]
    else []

end RenderedDocument

/-- Compiles and draws a composition. -/
def render (settings : Settings) (provider : FontProvider) (composition : Composition α) :
    Except Fault RenderedDocument := do
  let scene ← compileComposition settings.imageUrlTemplate provider composition
  assemble settings (if composition.name.isEmpty then "Composition" else composition.name) scene

end Artboard.Document
