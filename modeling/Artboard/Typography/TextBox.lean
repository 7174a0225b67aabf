import Artboard.Css.Declarations
import Artboard.Css.Length
import Artboard.Design.Text
import Artboard.Text.Case

/-!
# Text boxes

White space, alignment and indentation of the box around a text.
-/
namespace Artboard.Typography

variable {α : Type} [Scalar α]

structure TextBox where
  css : Css.Declarations
  autoWidth : Bool
  autoHeight : Bool
  /-- The text is aligned vertically as an item of a flex container. -/
  usesFlex : Bool

/-- A word in capitals; an absent word is empty. -/
def capitals (word : Option String) : String := Text.upperText (word.getD "")

def textAligns : List (String × String) :=
  [("LEFT", "left"), ("CENTER", "center"), ("RIGHT", "right"), ("JUSTIFIED", "justify")]

def verticalAligns : List (String × String) :=
  [("TOP", "flex-start"), ("CENTER", "center"), ("BOTTOM", "flex-end")]

def whiteSpace (autoResize truncation : String) (autoWidth : Bool) : List Css.Declaration :=
  if truncation = "ENDING" ∨ autoResize = "TRUNCATE" then
    [("white-space", "nowrap"), ("overflow", "hidden"), ("text-overflow", "ellipsis")]
  else if autoWidth then [("white-space", "pre")]
  else [("white-space", "pre-wrap")]

def verticalDeclarations (autoWidth : Bool) (align : Option String) : List Css.Declaration :=
  match align with
  | none => []
  | some align =>
    if autoWidth then [("display", "flex"), ("align-items", align)]
    else [("display", "flex"), ("flex-direction", "column"), ("justify-content", align)]

def textBox (text : TextData α) : TextBox :=
  let autoResize := capitals text.autoResize
  let autoWidth := autoResize == "WIDTH" || autoResize == "WIDTH_AND_HEIGHT"
  let vertical := verticalAligns.lookup (capitals text.alignVertical)
  let horizontal :=
    match textAligns.lookup (capitals text.alignHorizontal) with
    | some align => [("text-align", align)]
    | none => []
  let indent :=
    if Scalar.isZero text.paragraphIndent then []
    else [("text-indent", Css.px text.paragraphIndent)]
  { css := .ofList (whiteSpace autoResize (capitals text.truncation) autoWidth ++ horizontal ++
      verticalDeclarations autoWidth vertical ++ indent)
    autoWidth
    autoHeight := autoResize == "HEIGHT" || autoResize == "WIDTH_AND_HEIGHT"
    usesFlex := vertical.isSome }

end Artboard.Typography
