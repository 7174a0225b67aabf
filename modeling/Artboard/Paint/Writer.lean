import Artboard.Design.Writer
import Artboard.Paint.Background
import Artboard.Stroke.Spec

/-!
# Writing paints

The layers of a background, the placement of an image and the stroke of a node as
structured data.
-/
namespace Artboard

def Paint.LayerKind.name : Paint.LayerKind → String
  | .solid => "solid"
  | .gradient => "gradient"
  | .image => "image"

def Paint.Layer.json (layer : Paint.Layer) : Json :=
  .object [("kind", .string layer.kind.name), ("image", .string layer.image),
    ("size", .string layer.size), ("position", .string layer.position),
    ("repeat", .string layer.repetition), ("blend", .string layer.blend),
    ("raw_color", Json.ofText layer.color)]

def Paint.Placement.json (placement : Paint.Placement) : Json :=
  Json.ofList .string [placement.size, placement.position, placement.repetition]

/-- The fields that describe the paint of a stroke. -/
def StrokePaint.members : StrokePaint → List (String × Json)
  | .solid color => [("kind", .string "solid"), ("color", .string color), ("gradient", .null)]
  | .gradient value => [("kind", .string "gradient"), ("color", .null), ("gradient", .string value)]

def StrokeSpec.json (spec : StrokeSpec Float) : Json :=
  .object (spec.paint.members ++ [("align", .string (nameIn StrokeAlign.names spec.align)),
    ("weights", spec.weights.json), ("dash_pattern", Json.ofList .float spec.dashPattern)])

end Artboard
