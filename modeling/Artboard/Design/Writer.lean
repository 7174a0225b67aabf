import Artboard.Design.Names
import Artboard.Json.Value

/-!
# Writing a design

A design as structured data, with every field of every part in it. A length that
is a number and a symbolic one are told apart by the kind of their value.
-/
namespace Artboard

def Json.ofOption {β : Type} (write : β → Json) : Option β → Json
  | some value => write value
  | none => .null

def Json.ofList {β : Type} (write : β → Json) (values : List β) : Json := .array (values.map write)

def Json.ofText (text : Option String) : Json := Json.ofOption .string text

def Point.json (point : Point Float) : Json := .object [("x", .float point.x), ("y", .float point.y)]

def Size.json (size : Size Float) : Json :=
  .object [("width", .float size.width), ("height", .float size.height)]

def Rect.json (rect : Rect Float) : Json :=
  .object [("x", .float rect.x), ("y", .float rect.y), ("width", .float rect.width),
    ("height", .float rect.height)]

def Affine.json (map : Affine Float) : Json :=
  .array [Json.ofList .float [map.a, map.c, map.e], Json.ofList .float [map.b, map.d, map.f]]

def Dimension.json : Dimension Float → Json
  | .number value => .float value
  | .symbolic text => .string text

def Color.json (color : Color Float) : Json :=
  .object [("r", .float color.r), ("g", .float color.g), ("b", .float color.b),
    ("a", .float color.a)]

def GradientStop.json (stop : GradientStop Float) : Json :=
  .object [("position", .float stop.position), ("color", stop.color.json)]

/-- The fields that describe the source of a paint. -/
def PaintSource.members : PaintSource Float → List (String × Json)
  | .solid color => [("type", .string "SOLID"), ("color", color.json)]
  | .image source =>
    [("type", .string "IMAGE"), ("imageId", Json.ofText source.imageId),
     ("scaleMode", .string (nameIn ScaleMode.names source.scaleMode)),
     ("imageTransform", Json.ofOption Affine.json source.transform)]
  | .gradient source =>
    [("type", .string (nameIn GradientKind.names source.kind)),
     ("gradientStops", Json.ofList GradientStop.json source.stops),
     ("gradientHandlePositions", Json.ofOption (Json.ofList Point.json) source.handles),
     ("gradientTransform", Json.ofOption Affine.json source.transform)]

def Paint.json (paint : Paint Float) : Json :=
  .object ([("visible", .bool paint.visible), ("opacity", .float paint.opacity),
    ("blendMode", Json.ofText paint.blendMode)] ++ paint.source.members)

def Effect.json (effect : Effect Float) : Json :=
  .object [("type", .string (nameIn EffectKind.names effect.kind)),
    ("radius", .float effect.radius), ("spread", .float effect.spread),
    ("offset", effect.offset.json), ("color", Json.ofOption Color.json effect.color),
    ("visible", .bool effect.visible)]

/-- The weights of a stroke by the first letters of the sides. -/
def Sides.json (sides : Sides Float) : Json :=
  .object [("t", .float sides.top), ("r", .float sides.right), ("b", .float sides.bottom),
    ("l", .float sides.left)]

def Corners.json (corners : Corners Float) : Json := Json.ofList .float corners.toList

def Radii.json (radii : Radii Float) : Json :=
  .object [("uniform", Json.ofOption .float radii.uniform),
    ("corners", Json.ofOption Corners.json radii.corners)]

def Style.json (style : Style Float) : Json :=
  .object [("fills", Json.ofList Paint.json style.fills),
    ("strokes", Json.ofList Paint.json style.strokes),
    ("strokeWeights", Json.ofOption Sides.json style.strokeWeights),
    ("strokeAlign", .string (nameIn StrokeAlign.names style.strokeAlign)),
    ("dashPattern", Json.ofList .float style.dashPattern),
    ("effects", Json.ofList Effect.json style.effects), ("opacity", .float style.opacity),
    ("blendMode", Json.ofText style.blendMode), ("radii", Json.ofOption Radii.json style.radii)]

def FontName.json (name : FontName) : Json :=
  .object [("family", .string name.family), ("style", .string name.style)]

def LetterSpacing.json (spacing : LetterSpacing Float) : Json :=
  .object [("unit", .string (nameIn SpacingUnit.names spacing.unit)),
    ("value", .float spacing.value)]

def LineHeight.json (height : LineHeight Float) : Json :=
  .object [("unit", .string (nameIn LineHeightUnit.names height.unit)),
    ("value", Json.ofOption .float height.value)]

def TextSegment.json (segment : TextSegment Float) : Json :=
  .object [("start", .int segment.start), ("end", Json.ofOption .int segment.stop),
    ("fontSize", Json.ofOption .float segment.fontSize),
    ("fontName", Json.ofOption FontName.json segment.fontName),
    ("fontWeight", Json.ofOption .int segment.fontWeight),
    ("letterSpacing", Json.ofOption LetterSpacing.json segment.letterSpacing),
    ("lineHeight", Json.ofOption LineHeight.json segment.lineHeight),
    ("fills", Json.ofList Paint.json segment.fills),
    ("textDecoration", Json.ofText segment.textDecoration),
    ("textCase", Json.ofText segment.textCase)]

def TextData.json (text : TextData Float) : Json :=
  .object [("characters", .string text.characters),
    ("segments", Json.ofList TextSegment.json text.segments),
    ("textAlignHorizontal", Json.ofText text.alignHorizontal),
    ("textAlignVertical", Json.ofText text.alignVertical),
    ("textAutoResize", Json.ofText text.autoResize),
    ("textTruncation", Json.ofText text.truncation),
    ("paragraphIndent", .float text.paragraphIndent)]

/-- The fields of a node apart from its children. -/
def NodeProps.members (node : NodeProps Float) : List (String × Json) :=
  [("id", .string node.id), ("name", .string node.name), ("type", .string node.type),
   ("visible", .bool node.visible), ("width", Json.ofOption Dimension.json node.width),
   ("height", Json.ofOption Dimension.json node.height),
   ("absoluteTransform", Json.ofOption Affine.json node.absoluteTransform),
   ("renderBounds", Json.ofOption Rect.json node.renderBounds),
   ("absoluteRenderBounds", Json.ofOption Rect.json node.absoluteRenderBounds),
   ("style", node.style.json),
   ("layoutMode", .string (nameIn LayoutMode.names node.layoutMode)),
   ("layoutWrap", .string (nameIn wrapNames node.wraps)),
   ("itemSpacing", .float node.itemSpacing),
   ("counterAxisSpacing", .float node.counterAxisSpacing),
   ("itemReverseZIndex", .bool node.itemReverseZIndex),
   ("primaryAxisAlignItems", .string (nameIn AxisAlign.names node.primaryAxisAlignItems)),
   ("counterAxisAlignItems", .string (nameIn AxisAlign.names node.counterAxisAlignItems)),
   ("primaryAxisSizingMode", .string (nameIn sizingNames node.primaryAxisHugs)),
   ("counterAxisSizingMode", .string (nameIn sizingNames node.counterAxisHugs)),
   ("paddingTop", .float node.padding.top), ("paddingRight", .float node.padding.right),
   ("paddingBottom", .float node.padding.bottom), ("paddingLeft", .float node.padding.left),
   ("strokesIncludedInLayout", .bool node.strokesIncludedInLayout),
   ("clipsContent", .bool node.clipsContent),
   ("layoutPositioning", .string (nameIn positioningNames node.absolutelyPositioned)),
   ("layoutGrow", .float node.layoutGrow),
   ("layoutAlign", .string (nameIn LayoutAlign.names node.layoutAlign)),
   ("text", Json.ofOption TextData.json node.text), ("svgId", Json.ofText node.svgId),
   ("svgContent", Json.ofText node.svgContent), ("isMask", .bool node.isMask),
   ("maskType", Json.ofText node.maskType)]

mutual

def Node.json : Node Float → Json
  | .mk props children => .object (props.members ++ [("children", .array (nodesJson children))])

def nodesJson : List (Node Float) → List Json
  | [] => []
  | node :: rest => node.json :: nodesJson rest

end

def Composition.json (composition : Composition Float) : Json :=
  .object [("name", .string composition.name),
    ("absOrigin", Json.ofOption Point.json composition.absOrigin),
    ("bounds", Json.ofOption Size.json composition.bounds),
    ("children", .array (nodesJson composition.children))]

end Artboard
