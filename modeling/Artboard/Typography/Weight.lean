import Artboard.Text.Blank
import Artboard.Text.Case

/-!
# Font weights and styles

The weight of a font is inferred from the words of its style name, heavier words
only after the lighter ones that contain them.
-/
namespace Artboard.Typography

/-- The text occurs in the other one. -/
def occursIn (text : List Char) : List Char → Bool
  | [] => text.isEmpty
  | c :: rest => text.isPrefixOf (c :: rest) || occursIn text rest

/-- The words of a style name in small letters, one space between them. -/
def styleWords (style : String) : List Char :=
  let spaced := (Text.lower style.toList).map fun c => if c = '-' ∨ c = '_' then ' ' else c
  List.intercalate [' '] (Text.words spaced)

/-- The weights and the words that show them, in the order in which they are looked for. -/
def weightWords : List (Int × List String) :=
  [(100, ["thin", "hairline"]),
   (200, ["extra light", "ultra light", "extralight", "ultralight"]),
   (300, ["light"]),
   (500, ["medium"]),
   (600, ["semi bold", "semibold", "demi bold", "demibold"]),
   (800, ["extra bold", "ultra bold", "extrabold", "ultrabold"]),
   (900, ["black", "heavy"]),
   (700, ["bold"])]

def inferWeight (style : Option String) : Int :=
  let name := styleWords (style.getD "")
  match weightWords.find? fun entry => entry.2.any fun word => occursIn word.toList name with
  | some entry => entry.1
  | none => 400

def isItalic (style : String) : Bool := occursIn "italic".toList (Text.lower style.toList)

/-- A family with a fallback; a name of several words is quoted. -/
def fontStack (family : String) : String :=
  if family.toList.contains ' ' || family.toList.contains '-' then s!"'{family}', sans-serif"
  else s!"{family}, sans-serif"

end Artboard.Typography
