import Artboard.Layout.Basic
import Artboard.Text.Blank
import Artboard.Text.Case

/-!
# Alignment

The hints of automatic layout as values of flex properties. The main axis of a
column is the height, that of any other container is the width.
-/
namespace Artboard

/-- The axes of a flow. -/
structure FlowAxes where
  main : Axis
  cross : Axis
deriving DecidableEq, Repr

namespace FlowAxes

def ofMode (mode : LayoutMode) : FlowAxes :=
  if mode = .vertical then ⟨.height, .width⟩ else ⟨.width, .height⟩

end FlowAxes

/-- What a container with automatic layout tells the children in its flow. -/
structure Flow where
  axes : FlowAxes
  alignItems : Option String
  wraps : Bool

namespace AxisAlign

def justifyContent : AxisAlign → Option String
  | min => some "flex-start"
  | center => some "center"
  | max => some "flex-end"
  | spaceBetween => some "space-between"
  | baseline => none
  | stretch => none

def alignItems : AxisAlign → Option String
  | min => some "flex-start"
  | center => some "center"
  | max => some "flex-end"
  | spaceBetween => none
  | baseline => some "baseline"
  | stretch => some "stretch"

end AxisAlign

namespace LayoutAlign

def alignSelf : LayoutAlign → String
  | inherit => "auto"
  | min => "flex-start"
  | center => "center"
  | max => "flex-end"
  | stretch => "stretch"

/-- The box is stretched by its own hint, or by that of its parent when it has none. -/
def stretches (align : LayoutAlign) (parentAlignItems : Option String) : Bool :=
  align = .stretch || (align = .inherit && parentAlignItems = some "stretch")

end LayoutAlign

/-- A length with a unit or a keyword, such as a percentage. -/
def isSymbolicLength (text : String) : Bool :=
  Text.trim text.toList != ['0'] && text.toList.any fun c => c.isAlpha || c == '%'

end Artboard
