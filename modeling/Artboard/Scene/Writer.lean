import Artboard.Design.Writer
import Artboard.Scene.Composition

/-!
# Writing a scene

A compiled scene as structured data, with the layout and the declarations of
every box, for inspection and for tools that draw it in other ways.
-/
namespace Artboard

def Shadow.json (shadow : Shadow Float) : Json :=
  .object [("type", .string (if shadow.inner then "INNER_SHADOW" else "DROP_SHADOW")),
    ("x", .float shadow.x), ("y", .float shadow.y), ("blur", .float shadow.blur),
    ("spread", .float shadow.spread), ("color", .string shadow.color)]

/-- Declarations as pairs, in order. -/
def Css.Declarations.json (bag : Css.Declarations) : Json :=
  Json.ofList (fun entry => Json.ofList .string [entry.1, entry.2]) bag.toList

def PseudoRules.json (rules : PseudoRules) : Json := Json.ofList .string rules.texts

def EffectSet.json (effects : EffectSet Float) : Json :=
  .object [("shadows", Json.ofList Shadow.json effects.shadows),
    ("layer_blur", .float effects.layerBlur), ("background_blur", .float effects.backgroundBlur)]

def EffectTokens.json (tokens : EffectTokens) : Json :=
  .object [("box_shadows", Json.ofList .string tokens.boxShadows),
    ("text_shadows", Json.ofList .string tokens.textShadows),
    ("filters", Json.ofList .string tokens.filters),
    ("backdrop_filters", Json.ofList .string tokens.backdropFilters)]

def Typography.TextBox.json (box : Typography.TextBox) : Json :=
  .object [("css", box.css.json), ("auto_width", .bool box.autoWidth),
    ("auto_height", .bool box.autoHeight), ("uses_flex", .bool box.usesFlex)]

/-- An item with its children by their positions. -/
def StackItem.json : StackItem Nat → Json
  | .single child css =>
    .object [("item", .string "node"), ("index", .int child), ("item_css", css.json)]
  | .masked mask covered css =>
    .object [("item", .string "masked"), ("mask_index", .int mask),
      ("node_indices", Json.ofList (fun (child : Nat) => .int child) covered),
      ("container_css", css.json)]

def Linear.json (map : Linear Float) : Json :=
  .object [("a", .float map.a), ("b", .float map.b), ("c", .float map.c), ("d", .float map.d)]

/-- Values for the sides by their full names. -/
def Sides.namedJson (sides : Sides Float) : Json :=
  .object [("top", .float sides.top), ("right", .float sides.right),
    ("bottom", .float sides.bottom), ("left", .float sides.left)]

def Centering.name : Centering → String
  | .translate => "translate"
  | .inset => "inset"

def Wrapper.json (wrapper : Wrapper Float) : Json :=
  .object [("content_width", .float wrapper.contentWidth),
    ("content_height", .float wrapper.contentHeight),
    ("center_strategy", .string wrapper.centering.name)]

def Layout.json (layout : Layout Float) : Json :=
  .object [("display", .string layout.display.css), ("position", .string layout.position.css),
    ("left", .float layout.left), ("top", .float layout.top), ("width", .float layout.width),
    ("height", .float layout.height), ("css_width", Json.ofText layout.cssWidth),
    ("css_height", Json.ofText layout.cssHeight), ("origin", .string layout.origin.css),
    ("transform", layout.transform.json),
    ("flex_direction", Json.ofText layout.container.direction),
    ("justify_content", Json.ofText layout.container.justifyContent),
    ("align_items", Json.ofText layout.container.alignItems),
    ("flex_wrap", Json.ofText layout.container.wrap),
    ("gap", Json.ofOption .float layout.container.gap),
    ("row_gap", Json.ofOption .float layout.container.rowGap),
    ("column_gap", Json.ofOption .float layout.container.columnGap),
    ("padding", Json.ofOption Sides.namedJson layout.padding),
    ("box_sizing", Json.ofText layout.boxSizing), ("overflow", Json.ofText layout.overflow),
    ("flex_grow", .float layout.item.grow), ("flex_shrink", Json.ofOption .float layout.item.shrink),
    ("flex_basis", Json.ofOption Dimension.json layout.item.basis),
    ("align_self", Json.ofText layout.item.alignSelf),
    ("wrapper", Json.ofOption Wrapper.json layout.wrapper)]

/-- What a box holds; the children of a container are written already. -/
def Content.json (children : List Json) : Content → Json
  | .text markup => .object [("text", .string markup)]
  | .svg markup => .object [("svg", .string markup)]
  | .container => .object [("children", .array children)]
  | .empty => .object []

def SceneBox.json (box : SceneBox Float) (children : List Json) : Json :=
  .object [("id", .string box.id), ("kind", .string box.kind.name), ("name", .string box.name),
    ("type", .string box.type), ("layout", box.layout.json),
    ("declarations", box.declarations.json), ("has_stroke", .bool box.hasStroke),
    ("content", box.content.json children), ("is_mask", .bool box.isMask),
    ("inherited_shadows", Json.ofList Shadow.json box.inheritedShadows),
    ("effects_mode", .string (if box.isHolder then "inherit" else "self")),
    ("svg_file", Json.ofText box.svgFile), ("svg_content", Json.ofText box.svgContent)]

mutual

def SceneNode.json : SceneNode Float → Json
  | .mk box children => box.json (sceneNodesJson children)

def sceneNodesJson : List (SceneNode Float) → List Json
  | [] => []
  | node :: rest => node.json :: sceneNodesJson rest

end

def FontUse.json (font : FontUse) : Json :=
  .object [("family", .string font.family), ("weights", Json.ofList .int font.weights),
    ("styles", Json.ofList .string font.styles)]

def CompiledScene.json (scene : CompiledScene Float) : Json :=
  .object [("nodes", .array (sceneNodesJson scene.nodes)), ("css_rules", .string scene.rules.css),
    ("render_union", scene.union.json),
    ("font_meta", .object [("google_fonts_url", Json.ofText scene.fontUrl),
      ("stylesheet_urls", Json.ofList .string scene.providedUrls),
      ("fonts", Json.ofList FontUse.json scene.fonts)]),
    ("asset_meta", .object [("images", Json.ofList .string scene.images),
      ("svgs", Json.ofList .string scene.svgFiles)]),
    ("bounds", Json.ofOption Rect.json scene.bounds)]

end Artboard
