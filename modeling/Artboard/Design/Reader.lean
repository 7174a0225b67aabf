import Artboard.Design.Names
import Artboard.Schema.Field

/-!
# Reading a design

Each part of a design is an object whose fields are read in a fixed order. A
transform must be a matrix of two rows and three columns of finite numbers, the
type of a node must be in capitals, and the ids of siblings must differ.
-/
namespace Artboard

open Schema

namespace Design

def point : Json → Checked (Point Float) :=
  object fun members => Point.mk <$> field members "x" float 0.0 <*> field members "y" float 0.0

def size : Json → Checked (Size Float) :=
  object fun members =>
    Size.mk <$> field members "width" float 0.0 <*> field members "height" float 0.0

def rect : Json → Checked (Rect Float) :=
  object fun members =>
    Rect.mk <$> field members "x" float 0.0 <*> field members "y" float 0.0
      <*> field members "width" float 0.0 <*> field members "height" float 0.0

def blackColor : Color Float := ⟨0.0, 0.0, 0.0, 1.0⟩

def color : Json → Checked (Color Float) :=
  object fun members =>
    Color.mk <$> field members "r" float 0.0 <*> field members "g" float 0.0
      <*> field members "b" float 0.0 <*> field members "a" float 1.0

/-- A matrix given by its rows, the first of which holds `a`, `c` and `e`. -/
def affineOfRows : List (List Float) → Option (Affine Float)
  | [[a, c, e], [b, d, f]] =>
    if [a, c, e, b, d, f].all Scalar.isFinite then some { a, b, c, d, e, f } else none
  | _ => none

def affine (json : Json) : Checked (Affine Float) :=
  (Schema.list (Schema.list float) json).andThen fun rows =>
    match affineOfRows rows with
    | some map => .valid map
    | none => .fail (.rejected "transform must be a 2x3 matrix of finite numbers")

/-- The fields that every paint has. -/
def paintOf (members : Members) (source : Checked (PaintSource Float)) : Checked (Paint Float) :=
  Paint.mk <$> field members "visible" bool true <*> field members "opacity" float 1.0
    <*> field members "blend_mode" (nullable string) none <*> source

def solidSource (members : Members) : Checked (PaintSource Float) :=
  (fun _ color => PaintSource.solid color) <$> field members "type" (literal [("SOLID", ())]) ()
    <*> field members "color" color blackColor

def imageSource (members : Members) : Checked (PaintSource Float) :=
  (fun _ imageId scaleMode transform => PaintSource.image { imageId, scaleMode, transform })
    <$> field members "type" (literal [("IMAGE", ())]) ()
    <*> field members "image_id" (nullable string) none
    <*> field members "scale_mode" (member ScaleMode.names) .fill
    <*> field members "image_transform" (nullable affine) none

def gradientStop : Json → Checked (GradientStop Float) :=
  object fun members =>
    GradientStop.mk <$> field members "position" float 0.0 <*> field members "color" color blackColor

def gradientSource (members : Members) : Checked (PaintSource Float) :=
  (fun kind stops handles transform => PaintSource.gradient { kind, stops, handles, transform })
    <$> required members "type" (literal GradientKind.names)
    <*> field members "gradient_stops" (Schema.list gradientStop) []
    <*> field members "gradient_handle_positions" (nullable (Schema.list point)) none
    <*> field members "gradient_transform" (nullable affine) none

def solidPaint : Json → Checked (Paint Float) :=
  object fun members => paintOf members (solidSource members)

def imagePaint : Json → Checked (Paint Float) :=
  object fun members => paintOf members (imageSource members)

def gradientPaint : Json → Checked (Paint Float) :=
  object fun members => paintOf members (gradientSource members)

/-- The readers for the tags of paints. -/
def paintReaders : List (String × (Members → Checked (PaintSource Float))) :=
  [("SOLID", solidSource), ("IMAGE", imageSource)] ++
    GradientKind.names.map fun entry => (entry.1, gradientSource)

/-- The tag of a paint selects its fields and is part of the path of its issues. -/
def paint : Json → Checked (Paint Float)
  | .object members =>
    match members.lookup "type" with
    | none => .fail .tagMissing
    | some (.string tag) =>
      match paintReaders.lookup tag with
      | some source => (paintOf members (source members)).below (.key tag)
      | none => .fail .tagUnknown
    | some _ => .fail .tagUnknown
  | _ => .fail .taggedObjectExpected

def effect : Json → Checked (Effect Float) :=
  object fun members =>
    Effect.mk <$> required members "type" (member EffectKind.names)
      <*> field members "radius" float 0.0 <*> field members "spread" float 0.0
      <*> field members "offset" point ⟨0.0, 0.0⟩ <*> field members "color" (nullable color) none
      <*> field members "visible" bool true

def strokeWeights : Json → Checked (Sides Float) :=
  object fun members =>
    Sides.mk <$> field members "t" float 0.0 <*> field members "r" float 0.0
      <*> field members "b" float 0.0 <*> field members "l" float 0.0

def corners (json : Json) : Checked (Corners Float) :=
  (fourFloats json).map fun (a, b, c, d) => ⟨a, b, c, d⟩

def radii : Json → Checked (Radii Float) :=
  object fun members =>
    Radii.mk <$> field members "uniform" (nullable float) none
      <*> field members "corners" (nullable corners) none

def plainStyle : Style Float where
  fills := []
  strokes := []
  strokeWeights := none
  strokeAlign := .inside
  dashPattern := []
  effects := []
  opacity := 1.0
  blendMode := none
  radii := none

def style : Json → Checked (Style Float) :=
  object fun members =>
    Style.mk <$> field members "fills" (Schema.list paint) []
      <*> field members "strokes" (Schema.list paint) []
      <*> field members "stroke_weights" (nullable strokeWeights) none
      <*> field members "stroke_align" (member StrokeAlign.names) .inside
      <*> field members "dash_pattern" (Schema.list float) []
      <*> field members "effects" (Schema.list effect) []
      <*> field members "opacity" float 1.0
      <*> field members "blend_mode" (nullable string) none
      <*> field members "radii" (nullable radii) none

def fontName : Json → Checked FontName :=
  object fun members =>
    FontName.mk <$> required members "family" string <*> field members "style" string "Regular"

def letterSpacing : Json → Checked (LetterSpacing Float) :=
  object fun members =>
    LetterSpacing.mk <$> field members "unit" (literal SpacingUnit.names) .pixels
      <*> field members "value" float 0.0

def lineHeight : Json → Checked (LineHeight Float) :=
  object fun members =>
    LineHeight.mk <$> field members "unit" (literal LineHeightUnit.names) .auto
      <*> field members "value" (nullable float) none

def textSegment : Json → Checked (TextSegment Float) :=
  object fun members =>
    TextSegment.mk <$> field members "start" int 0 <*> field members "end" (nullable int) none
      <*> field members "font_size" (nullable float) none
      <*> field members "font_name" (nullable fontName) none
      <*> field members "font_weight" (nullable int) none
      <*> field members "letter_spacing" (nullable letterSpacing) none
      <*> field members "line_height" (nullable lineHeight) none
      <*> field members "fills" (Schema.list paint) []
      <*> field members "text_decoration" (nullable string) none
      <*> field members "text_case" (nullable string) none

def textData : Json → Checked (TextData Float) :=
  object fun members =>
    TextData.mk <$> field members "characters" string ""
      <*> field members "segments" (Schema.list textSegment) []
      <*> field members "text_align_horizontal" (nullable string) none
      <*> field members "text_align_vertical" (nullable string) none
      <*> field members "text_auto_resize" (nullable string) none
      <*> field members "text_truncation" (nullable string) none
      <*> field members "paragraph_indent" float 0.0

/-- A number, or a text that is kept as it is. -/
def dimension : Json → Checked (Dimension Float)
  | .string text => .valid (.symbolic text)
  | json =>
    match float json with
    | .valid value => .valid (.number value)
    | .invalid _ => .invalid [⟨.floatExpected, [.key "float"]⟩, ⟨.stringExpected, [.key "str"]⟩]

/-- An id may be written as a number, whose text it then is. -/
def nodeId : Json → Checked String
  | .int value => .valid (toString value)
  | .float value => .valid (shortestText value)
  | json => string json

def nodeType (json : Json) : Checked String :=
  (string json).andThen fun type =>
    if type.isEmpty ∨ Text.upperText type ≠ type then
      .fail (.rejected s!"node type must be an upper-case name, got {Text.quotedText type}")
    else .valid type

def paddingOf (members : Members) : Checked (Sides Float) :=
  Sides.mk <$> field members "padding_top" float 0.0 <*> field members "padding_right" float 0.0
    <*> field members "padding_bottom" float 0.0 <*> field members "padding_left" float 0.0

/-- The fields of a node in front of its children. -/
def nodeProps (members : Members) : Checked (NodeProps Float) :=
  NodeProps.mk <$> required members "id" nodeId
    <*> field members "name" string ""
    <*> field members "type" nodeType "FRAME"
    <*> field members "visible" bool true
    <*> field members "width" (nullable dimension) none
    <*> field members "height" (nullable dimension) none
    <*> field members "absolute_transform" (nullable affine) none
    <*> field members "render_bounds" (nullable rect) none
    <*> field members "absolute_render_bounds" (nullable rect) none
    <*> field members "style" style plainStyle
    <*> field members "layout_mode" (member LayoutMode.names) .none
    <*> field members "layout_wrap" (member wrapNames) false
    <*> field members "item_spacing" float 0.0
    <*> field members "counter_axis_spacing" float 0.0
    <*> field members "item_reverse_z_index" bool false
    <*> field members "primary_axis_align_items" (member AxisAlign.names) .min
    <*> field members "counter_axis_align_items" (member AxisAlign.names) .min
    <*> field members "primary_axis_sizing_mode" (member sizingNames) false
    <*> field members "counter_axis_sizing_mode" (member sizingNames) false
    <*> paddingOf members
    <*> field members "strokes_included_in_layout" bool false
    <*> field members "clips_content" bool false
    <*> field members "layout_positioning" (member positioningNames) false
    <*> field members "layout_grow" float 0.0
    <*> field members "layout_align" (member LayoutAlign.names) .inherit
    <*> field members "text" (nullable textData) none
    <*> field members "svg_id" (nullable string) none
    <*> field members "svg_content" (nullable string) none
    <*> field members "is_mask" bool false
    <*> field members "mask_type" (nullable string) none

/-- Siblings have different ids. -/
def distinctIds (reason : String) (nodes : List (Node Float)) : Checked (List (Node Float)) :=
  if (nodes.map fun node => node.props.id).Nodup then .valid nodes else .fail (.rejected reason)

mutual

def node : Json → Checked (Node Float)
  | .object members =>
    Node.mk <$> nodeProps members <*> (childrenMember members).below (.key "children")
  | _ => .fail .objectExpected

/-- The children of a node among its members. -/
def childrenMember : List (String × Json) → Checked (List (Node Float))
  | [] => .valid []
  | (key, value) :: rest =>
    if key = "children" then
      (childList value).andThen (distinctIds "child id values must be unique within a parent")
    else childrenMember rest

def childList : Json → Checked (List (Node Float))
  | .array items => childrenFrom 0 items
  | _ => .fail .listExpected

def childrenFrom (index : Nat) : List Json → Checked (List (Node Float))
  | [] => .valid []
  | item :: rest => List.cons <$> (node item).below (.item index) <*> childrenFrom (index + 1) rest

end

def compositionChildren (json : Json) : Checked (List (Node Float)) :=
  (Schema.list node json).andThen (distinctIds "children id values must be unique")

def composition : Json → Checked (Composition Float) :=
  object fun members =>
    Composition.mk <$> field members "name" string ""
      <*> field members "abs_origin" (nullable point) none
      <*> field members "bounds" (nullable size) none
      <*> field members "children" compositionChildren []

end Design

end Artboard
