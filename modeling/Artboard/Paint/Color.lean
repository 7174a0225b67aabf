import Artboard.Css.Length
import Artboard.Design.Style
import Artboard.Text.Case

/-!
# Colours and blending

A colour is written with its channels rounded to bytes, and with an opacity only
when that does not round to one.
-/
namespace Artboard.Paint

variable {α : Type} [Scalar α]

/-- The opacity rounds to one at two places. -/
def isOpaque (alpha : α) : Bool :=
  match Scalar.exact alpha with
  | .finite value => !value.negative && value.scaled 2 == 100
  | _ => false

def colorCss (color : Color α) (opacity : α) : Except Fault String := do
  let r ← nearestInt (color.r * 255.0)
  let g ← nearestInt (color.g * 255.0)
  let b ← nearestInt (color.b * 255.0)
  let alpha := color.a * opacity
  return if isOpaque alpha then s!"rgb({r},{g},{b})"
    else s!"rgba({r},{g},{b},{Css.number alpha 2})"

/-- The name of a blend mode in a stylesheet; the two neutral modes are normal. -/
def blendModeCss (mode : Option String) : String :=
  match mode with
  | none => "normal"
  | some mode =>
    let capitals := Text.upperText mode
    if mode.isEmpty ∨ capitals = "NORMAL" ∨ capitals = "PASS_THROUGH" then "normal"
    else String.ofList ((Text.lower mode.toList).map fun c => if c = '_' then '-' else c)

end Artboard.Paint
