import Artboard.Css.Declarations
import Artboard.Css.ValueList
import Artboard.Text.DecimalDigit

/-!
# Shadows of turned boxes

The outer shadows of a turned box would turn with it. They move to its wrapper as
filters, while inset shadows stay. A filter has no spread, so the fourth length
of a shadow is dropped.
-/
namespace Artboard.Render

/-- A number, with or without the unit of pixels. -/
def isLength (part : List Char) : Bool :=
  let unsigned :=
    match part with
    | '-' :: rest => rest
    | rest => rest
  let whole := unsigned.takeWhile Text.isDecimalDigit
  let (digits, rest) :=
    match unsigned.drop whole.length with
    | '.' :: rest =>
      let fraction := rest.takeWhile Text.isDecimalDigit
      (fraction, rest.drop fraction.length)
    | rest => (whole, rest)
  !digits.isEmpty && (rest.isEmpty || rest == "px".toList)

/-- A box shadow as a filter: the first three of its leading lengths, then what follows them. -/
def dropShadow (token : String) : String :=
  let parts := Css.splitTopLevel ' ' token.toList
  let lengths := parts.takeWhile isLength
  let rest := parts.drop lengths.length
  "drop-shadow(" ++ String.ofList (List.intercalate [' '] (lengths.take 3 ++ rest)) ++ ")"

def isInset (token : String) : Bool := "inset".toList.isPrefixOf token.toList

/-- Moves the outer shadows of the inner box to the outer one. -/
def migrateShadows (inner outer : Css.Declarations) : Css.Declarations × Css.Declarations :=
  let tokens := (Css.splitTopLevel ',' ((inner.get? "box-shadow").getD "").toList).map String.ofList
  let kept := tokens.filter isInset
  let moved := tokens.filter fun token => !isInset token
  if moved.isEmpty then (inner, outer)
  else
    (if kept.isEmpty then inner.erase "box-shadow"
     else inner.set "box-shadow" (String.intercalate "," kept),
     moved.foldl (fun bag token => bag.appendList "filter" (dropShadow token) " ") outer)

end Artboard.Render
