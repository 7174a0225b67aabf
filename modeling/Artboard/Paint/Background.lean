import Artboard.Css.Declarations
import Artboard.Paint.Gradient
import Artboard.Paint.Image

/-!
# Backgrounds

Paints are listed from the bottom up and background layers from the top down, so
the visible fills are taken in reverse. A single layer has the shortest form;
several layers are lists of equal length.
-/
namespace Artboard.Paint

variable {α : Type} [Scalar α]

inductive LayerKind where
  | solid
  | gradient
  | image
deriving DecidableEq, Repr

structure Layer where
  kind : LayerKind
  image : String
  size : String
  position : String
  repetition : String
  blend : String
  /-- The colour of a solid layer. -/
  color : Option String

def quotedUrl (url : String) : String := s!"url('{url}')"

/-- The layer of a paint, if it draws something. -/
def layer? (template : String) (width height : α) (paint : Artboard.Paint α) :
    Except Fault (Option Layer) := do
  let blend := blendModeCss paint.blendMode
  match paint.source with
  | .image source =>
    match source.imageId with
    | none => return none
    | some imageId =>
      if imageId.isEmpty then return none
      let placement := Placement.ofImage source width height
      let url ← imageUrl template imageId
      return some ⟨.image, quotedUrl url, placement.size, placement.position,
        placement.repetition, blend, none⟩
  | .gradient gradient =>
    match ← gradientCss gradient paint.opacity width height with
    | none => return none
    | some value => return some ⟨.gradient, value, "auto", "center", "no-repeat", blend, none⟩
  | .solid color =>
    let color ← colorCss color paint.opacity
    return some ⟨.solid, s!"linear-gradient(0deg, {color} 0%, {color} 100%)", "auto", "center",
      "no-repeat", blend, some color⟩

/-- The layers of the visible fills, the top one first. -/
def layers (template : String) (node : NodeProps α) : Except Fault (List Layer) := do
  let width := node.numericLength .width
  let height := node.numericLength .height
  let visible := (node.style.fills.filter (·.visible)).reverse
  let found ← visible.mapM (layer? template width height)
  return found.filterMap id

def singleLayer (layer : Layer) : List Css.Declaration :=
  match layer.kind with
  | .solid => [("background", layer.color.getD layer.image)]
  | .gradient => [("background", layer.image)]
  | .image =>
    [("background-image", layer.image), ("background-position", layer.position),
     ("background-size", layer.size), ("background-repeat", layer.repetition)]

/-- One value of each layer, in order. -/
def joined (value : Layer → String) (layers : List Layer) : String :=
  String.intercalate ", " (layers.map value)

def severalLayers (layers : List Layer) : List Css.Declaration :=
  [("background-image", joined Layer.image layers),
   ("background-position", joined Layer.position layers),
   ("background-size", joined Layer.size layers),
   ("background-repeat", joined Layer.repetition layers)] ++
    if layers.any fun layer => layer.blend != "normal" then
      [("background-blend-mode", joined Layer.blend layers)]
    else []

/-- The background of a node; text has none. -/
def backgroundCss (template : String) (node : NodeProps α) : Except Fault Css.Declarations := do
  if node.type = "TEXT" then return .empty
  match ← layers template node with
  | [] => return .empty
  | [layer] => return .ofList (singleLayer layer)
  | layers => return .ofList (severalLayers layers)

end Artboard.Paint
