import Artboard.Design.Node
import Artboard.Css.Length

/-!
# Image paints

An image is placed by its scale mode; a crop that only scales and shifts is
placed exactly. The address of an image comes from a template, unless its id is
a path from the root.
-/
namespace Artboard.Paint

variable {α : Type} [Scalar α]

structure Placement where
  size : String
  position : String
  repetition : String
deriving DecidableEq, Repr

def imageUrl (template imageId : String) : Except Fault String :=
  if "/".isPrefixOf imageId then .ok imageId
  else
    match Text.expandTemplate (fun name => if name = "image_id" then some imageId else none)
        template with
    | .ok url => .ok url
    | .error cause => .error (.template cause)

namespace Placement

def ofMode : ScaleMode → Placement
  | .fit => ⟨"contain", "center", "no-repeat"⟩
  | .fill => ⟨"cover", "center", "no-repeat"⟩
  | .crop => ⟨"cover", "center", "no-repeat"⟩
  | .stretch => ⟨"100% 100%", "center", "no-repeat"⟩
  | .tile => ⟨"auto", "0 0", "repeat"⟩

/-- Two lengths with two places each. -/
def lengths (x y : α) : String :=
  s!"{Fixed.signed (Scalar.exact x) 2}px {Fixed.signed (Scalar.exact y) 2}px"

/-- The visible part of an image as the size and the shift of the whole. -/
def ofCrop (crop : Affine α) (width height : α) : Placement :=
  let fullWidth := width / crop.a
  let fullHeight := height / crop.d
  ⟨lengths fullWidth fullHeight,
    lengths (-crop.e * fullWidth + 0.0) (-crop.f * fullHeight + 0.0), "no-repeat"⟩

/-- The crop only scales and shifts. -/
def isUpright (crop : Affine α) : Bool :=
  crop.c == 0.0 && crop.b == 0.0 && decide (0.0 < crop.a) && decide (0.0 < crop.d)

def ofImage (image : ImageSource α) (width height : α) : Placement :=
  match image.transform with
  | some crop =>
    if image.scaleMode = .crop ∧ 0.0 < width ∧ 0.0 < height ∧ isUpright crop = true then
      ofCrop crop width height
    else ofMode image.scaleMode
  | none => ofMode image.scaleMode

end Placement

end Artboard.Paint
