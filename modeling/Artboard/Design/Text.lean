import Artboard.Design.Style

/-!
# Text of a design

A text is a sequence of characters with segments that style ranges of them.
-/
namespace Artboard

structure FontName where
  family : String
  style : String

inductive SpacingUnit where
  | pixels
  | percent
deriving DecidableEq, Repr

structure LetterSpacing (α : Type) where
  unit : SpacingUnit
  value : α

inductive LineHeightUnit where
  | pixels
  | percent
  | auto
deriving DecidableEq, Repr

structure LineHeight (α : Type) where
  unit : LineHeightUnit
  value : Option α

/-- The style of the characters from `start` up to `stop`; a negative position counts from the
end. -/
structure TextSegment (α : Type) where
  start : Int
  stop : Option Int
  fontSize : Option α
  fontName : Option FontName
  fontWeight : Option Int
  letterSpacing : Option (LetterSpacing α)
  lineHeight : Option (LineHeight α)
  fills : List (Paint α)
  textDecoration : Option String
  textCase : Option String

structure TextData (α : Type) where
  characters : String
  segments : List (TextSegment α)
  alignHorizontal : Option String
  alignVertical : Option String
  autoResize : Option String
  truncation : Option String
  paragraphIndent : α

end Artboard
