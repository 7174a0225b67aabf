import Artboard.Paint.Color
import Artboard.Text.Entity
import Artboard.Typography.TextBox
import Artboard.Typography.Weight

/-!
# Text segments

Each segment is a span with the style of its range of characters. A line break
is written as an element, and a text with line breaks is wrapped in one block.
-/
namespace Artboard.Typography

variable {α : Type} [Scalar α]

def segmentWeight (segment : TextSegment α) : Int :=
  match segment.fontWeight with
  | some weight => weight
  | none => inferWeight (segment.fontName.map FontName.style)

def fontDeclarations (segment : TextSegment α) : List Css.Declaration :=
  (match segment.fontSize with
   | some size => [("font-size", Css.px size)]
   | none => []) ++
  (match segment.fontName with
   | some font =>
     [("font-family", fontStack font.family)] ++
       if isItalic font.style then [("font-style", "italic")] else []
   | none => []) ++
  if segment.fontWeight.isSome || segment.fontName.isSome then
    [("font-weight", toString (segmentWeight segment))]
  else []

/-- A number that does not vanish when it is rounded to two places. -/
def isNoticeable (value : α) : Bool :=
  match Scalar.exact value with
  | .finite value => decide (1 ≤ value.scaled 2)
  | .infinite _ => true
  | .undefined => false

def spacingDeclarations (spacing : Option (LetterSpacing α)) : List Css.Declaration :=
  match spacing with
  | none => []
  | some spacing =>
    let (value, unit) : α × String :=
      match spacing.unit with
      | .percent => (spacing.value / 100.0, "em")
      | .pixels => (spacing.value, "px")
    if Scalar.isZero spacing.value || !isNoticeable value then []
    else [("letter-spacing", Css.number value 2 ++ unit)]

def lineHeightDeclarations (lineHeight : Option (LineHeight α)) : List Css.Declaration :=
  match lineHeight with
  | some ⟨.pixels, some value⟩ => [("line-height", Css.px value)]
  | some ⟨.percent, some value⟩ =>
    if 100.0 < value then [("line-height", Css.number value 2 ++ "%")] else []
  | _ => []

/-- The colour of the first visible solid fill. -/
def textColor (fills : List (Paint α)) : Except Fault String :=
  let solid := fills.findSome? fun paint =>
    if paint.visible then paint.solid?.map fun color => (color, paint.opacity) else none
  match solid with
  | some (color, opacity) => Paint.colorCss color opacity
  | none => .ok "transparent"

def decorations : List (String × String) :=
  [("UNDERLINE", "underline"), ("STRIKETHROUGH", "line-through")]

def caseTransforms : List (String × String) :=
  [("UPPER", "uppercase"), ("LOWER", "lowercase"), ("TITLE", "capitalize")]

def lookupDeclaration (name : String) (table : List (String × String)) (word : Option String) :
    List Css.Declaration :=
  match table.lookup (capitals word) with
  | some value => [(name, value)]
  | none => []

def segmentCss (segment : TextSegment α) : Except Fault Css.Declarations := do
  let color ← textColor segment.fills
  return .ofList (fontDeclarations segment ++ spacingDeclarations segment.letterSpacing ++
    lineHeightDeclarations segment.lineHeight ++ [("color", color)] ++
    lookupDeclaration "text-decoration" decorations segment.textDecoration ++
    lookupDeclaration "text-transform" caseTransforms segment.textCase)

/-- A position from the start, where a negative one counts from the end. -/
def position (length : Nat) (index : Int) : Nat :=
  if index < 0 then (index + length).toNat else min index.toNat length

/-- The characters from `start` up to `stop`. -/
def slice (text : List Char) (start stop : Int) : List Char :=
  let first := position text.length start
  let last := position text.length stop
  (text.take last).drop first

/-- A run of characters as markup. -/
def runMarkup (run : List Char) : List Char :=
  run.flatMap fun c => if c = '\n' then "<br/>".toList else Text.escapeContentChar c

def segmentMarkup (characters : List Char) (segment : TextSegment α) :
    Except Fault (List Char) := do
  let style := (← segmentCss segment).serialize
  let run := slice characters segment.start (segment.stop.getD characters.length)
  return "<span style=\"".toList ++ Text.escapeQuotes style.toList ++ "\">".toList ++
    runMarkup run ++ "</span>".toList

/-- The markup of a text, in one block if it has line breaks or is to be wrapped. -/
def textMarkup (text : TextData α) (wrap : Bool) : Except Fault String := do
  let characters := text.characters.toList
  let body ←
    if text.segments.isEmpty then .ok (runMarkup characters)
    else do
      let parts ← text.segments.mapM (segmentMarkup characters)
      .ok parts.flatten
  return String.ofList
    (if wrap || characters.contains '\n' then "<div>".toList ++ body ++ "</div>".toList else body)

end Artboard.Typography
