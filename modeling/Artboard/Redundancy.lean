import Artboard.Css.Declarations
import Artboard.Text.Case

/-!
# Redundant declarations

Declarations that a browser would apply anyway are left out: offsets of zero on
relative boxes, an origin without a transform to use it, and the defaults of
flex containers. The vertical alignment of text is kept.
-/
namespace Artboard

/-- What decides whether a declaration of a box is redundant. -/
structure BoxContext where
  position : Option String
  rotatesOrScales : Bool
  display : Option String
  isText : Bool

namespace BoxContext

/-- Properties that are never left out. -/
def kept : List String :=
  ["flex", "flex-grow", "flex-shrink", "flex-basis", "transform", "z-index", "line-height",
   "letter-spacing"]

def zeroOffsets : List String := ["0", "0px", "0%"]

def isRelative (context : BoxContext) : Bool :=
  Text.lowerText (context.position.getD "") == "relative"

def isFlex (context : BoxContext) : Bool := Text.lowerText (context.display.getD "") == "flex"

/-- A default of flex containers. -/
def isFlexDefault (context : BoxContext) (name value : String) : Bool :=
  (name == "justify-content" && value == "flex-start" && !context.isText) ||
    (name == "align-items" && value == "stretch") ||
    (name == "flex-direction" && value == "row") || (name == "flex-wrap" && value == "nowrap")

def isRedundant (context : BoxContext) (declaration : Css.Declaration) : Bool :=
  let name := declaration.1
  let value := Text.lowerText declaration.2
  !kept.contains name &&
    ((context.isRelative && (name == "left" || name == "top") && zeroOffsets.contains value) ||
      (name == "transform-origin" && !context.rotatesOrScales) ||
      (context.isFlex && context.isFlexDefault name value))

/-- The declarations that are not redundant, in order. -/
def prune (context : BoxContext) (bag : Css.Declarations) : Css.Declarations :=
  .ofList (bag.toList.filter fun declaration => !context.isRedundant declaration)

end BoxContext

end Artboard
