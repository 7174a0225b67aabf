import Artboard.Design.Writer
import Artboard.Document.Page

/-!
# Writing documents

The viewport, the parts of a rendered document and the settings as structured
data.
-/
namespace Artboard

def Settings.json (settings : Settings) : Json :=
  .object [("shared_class_threshold", .int settings.sharedClassThreshold),
    ("class_scope", .string settings.classScope), ("outline_padding", .int settings.outlinePadding),
    ("debug_enabled", .bool settings.debugEnabled),
    ("image_url_template", .string settings.imageUrlTemplate),
    ("svg_url_template", .string settings.svgUrlTemplate), ("log_level", .string settings.logLevel)]

namespace Document

def Viewport.json (viewport : Viewport) : Json :=
  .object [("width", .int viewport.width), ("height", .int viewport.height),
    ("offset_x", .int viewport.offsetX), ("offset_y", .int viewport.offsetY)]

def RenderedDocument.json (document : RenderedDocument) : Json :=
  .object [("html", .string document.html), ("css", .string document.css),
    ("debug_html", .string document.overlayHtml), ("debug_css", .string document.overlayCss),
    ("viewport", document.viewport.json), ("title", .string document.title),
    ("font_links", Json.ofList .string document.fontLinks)]

end Document

end Artboard
