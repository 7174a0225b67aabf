import Artboard.Css.Declarations
import Artboard.Css.Length
import Artboard.Design.Geometry

/-!
# The viewport

The viewport is the smallest box with integer edges that holds the canvas and
everything that is drawn, with a padding on every side. The offset moves the
origin of the composition into it.
-/
namespace Artboard.Document

variable {α : Type} [Scalar α]

structure Viewport where
  width : Int
  height : Int
  offsetX : Int
  offsetY : Int
deriving DecidableEq, Repr

namespace Viewport

/-- The offset that moves the least coordinate, or the origin if that is less, behind the
padding. -/
def offset (padding least : α) : Except Fault Int := ceilInt (padding - Scalar.min 0.0 least)

/-- The extent from the origin of the viewport to the padding behind the greatest coordinate. -/
def extent (padding canvas greatest : α) (offset : Int) : Except Fault Int :=
  ceilInt (Scalar.max canvas greatest + Scalar.ofInt offset + padding)

/-- The viewport of a canvas and the union of what is drawn. -/
def compute (canvas : Option (Rect α)) (union : Rect α) (padding : α) : Except Fault Viewport := do
  let (canvasWidth, canvasHeight) : α × α :=
    match canvas with
    | some canvas => (canvas.width, canvas.height)
    | none => (0.0, 0.0)
  let offsetX ← offset padding union.x
  let offsetY ← offset padding union.y
  let width ← extent padding canvasWidth (union.x + union.width) offsetX
  let height ← extent padding canvasHeight (union.y + union.height) offsetY
  return { width, height, offsetX, offsetY }

end Viewport

def sizeRule (selector first second : String) (x y : α) : String :=
  Css.rule selector (.ofList [(first, Css.px x), (second, Css.px y)])

def integerPx (value : Int) : Float := Scalar.ofInt value

/-- The rules that give the shell its measures. -/
def shellCss (viewport : Viewport) (canvas : Option (Rect α)) : String :=
  let fixed :=
    [sizeRule ".viewport" "width" "height" (integerPx viewport.width) (integerPx viewport.height),
     sizeRule ".view-offset" "left" "top" (integerPx viewport.offsetX)
       (integerPx viewport.offsetY)]
  String.intercalate "\n" (fixed ++
    match canvas with
    | some canvas => [sizeRule ".composition" "width" "height" canvas.width canvas.height]
    | none => [])

end Artboard.Document
