import Artboard.Paint.Background
import Artboard.Text.Case

/-!
# Corners and masks

The radius of a box, and the mask that an image fill of a mask node makes.
-/
namespace Artboard.Paint

variable {α : Type} [Scalar α]

def cornersCss (corners : Corners α) : String :=
  String.intercalate " " (corners.toList.map Css.px)

/-- The declared radius: a positive uniform one, else the corners unless all are zero. -/
def radiusCss (radii : Option (Radii α)) : Css.Declarations :=
  match radii with
  | none => .empty
  | some radii =>
    let uniform := radii.uniform.bind fun radius => if 0.0 < radius then some radius else none
    match uniform, radii.corners with
    | some radius, _ => .ofList [("border-radius", Css.px radius)]
    | none, some corners =>
      if corners.isZero then .empty else .ofList [("border-radius", cornersCss corners)]
    | none, none => .empty

/-- The first visible fill with an image. -/
def maskImage? (node : NodeProps α) : Option (ImageSource α × String) :=
  node.style.fills.findSome? fun paint =>
    match paint.image? with
    | some source =>
      match source.imageId with
      | some imageId =>
        if paint.visible && !imageId.isEmpty then some (source, imageId) else none
      | none => none
    | none => none

/-- The declarations of one spelling of the mask properties. -/
def maskDeclarations (start url : String) (placement : Placement) : List Css.Declaration :=
  [(start ++ "mask-image", url), (start ++ "mask-size", placement.size),
   (start ++ "mask-position", placement.position), (start ++ "mask-repeat", placement.repetition)]

/-- The mask made by an image fill, in both spellings. -/
def maskCss (template : String) (node : NodeProps α) : Except Fault Css.Declarations := do
  match maskImage? node with
  | none => return .empty
  | some (source, imageId) =>
    let placement :=
      Placement.ofImage source (node.numericLength .width) (node.numericLength .height)
    let url := quotedUrl (← imageUrl template imageId)
    let mode :=
      if Text.upperText (node.maskType.getD "") = "LUMINANCE" then "luminance" else "alpha"
    return .ofList (maskDeclarations "-webkit-" url placement ++ maskDeclarations "" url placement ++
      [("mask-mode", mode)])

end Artboard.Paint
