import Artboard.Css.Declarations
import Artboard.Css.Length
import Artboard.Design.Node

/-!
# Layouts

A layout places one box: in its parent's frame, or in the flow of a container
with automatic layout. It also says how the box lays out its own children. A box
in flow that is turned or distorted has a wrapper, which reserves its extent
while the box keeps its true size inside.
-/
namespace Artboard

inductive Display where
  | block
  | flex
deriving DecidableEq, Repr

inductive Position where
  | absolute
  | relative
deriving DecidableEq, Repr

/-- The point that a transform leaves in place. -/
inductive Origin where
  | topLeft
  | center
deriving DecidableEq, Repr

namespace Display

def css : Display → String
  | block => "block"
  | flex => "flex"

end Display

namespace Position

def css : Position → String
  | absolute => "absolute"
  | relative => "relative"

end Position

namespace Origin

def css : Origin → String
  | topLeft => "top left"
  | center => "center"

end Origin

/-- How the true-size box is centred in its wrapper. -/
inductive Centering where
  | translate
  | inset
deriving DecidableEq, Repr

structure Wrapper (α : Type) where
  contentWidth : α
  contentHeight : α
  centering : Centering

/-- How a box lays out its children when it is a flex container. -/
structure FlexContainer (α : Type) where
  direction : Option String
  justifyContent : Option String
  alignItems : Option String
  wrap : Option String
  gap : Option α
  rowGap : Option α
  columnGap : Option α

/-- How a box takes part in the flow of its parent. -/
structure FlexItem (α : Type) where
  grow : α
  shrink : Option α
  basis : Option (Dimension α)
  alignSelf : Option String

structure Layout (α : Type) where
  display : Display
  position : Position
  left : α
  top : α
  width : α
  height : α
  cssWidth : Option String
  cssHeight : Option String
  origin : Origin
  transform : Linear α
  container : FlexContainer α
  padding : Option (Sides α)
  boxSizing : Option String
  overflow : Option String
  item : FlexItem α
  wrapper : Option (Wrapper α)

variable {α : Type} [Scalar α]

def FlexContainer.none : FlexContainer α :=
  { direction := .none, justifyContent := .none, alignItems := .none, wrap := .none, gap := .none,
    rowGap := .none, columnGap := .none }

def FlexItem.none : FlexItem α :=
  { grow := 0.0, shrink := .none, basis := .none, alignSelf := .none }

/-- A declaration for a text that is present and not empty. -/
def givenDeclaration (name : String) (value : Option String) : List Css.Declaration :=
  match value with
  | some value => if value.isEmpty then [] else [(name, value)]
  | none => []

def pxDeclaration (name : String) (value : Option α) : List Css.Declaration :=
  match value with
  | some value => [(name, Css.px value)]
  | none => []

/-- Four lengths in the order of the sides. -/
def sidesCss (sides : Sides α) : String := String.intercalate " " (sides.toList.map Css.px)

namespace Layout

/-- A layout at the origin of its frame, without size. -/
def plain : Layout α where
  display := .block
  position := .absolute
  left := 0.0
  top := 0.0
  width := 0.0
  height := 0.0
  cssWidth := none
  cssHeight := none
  origin := .topLeft
  transform := .identity
  container := .none
  padding := none
  boxSizing := none
  overflow := none
  item := .none
  wrapper := none

/-- The symbolic length where one is given, else the number. -/
def lengthCss (symbolic : Option String) (length : α) : String :=
  match symbolic with
  | some text => if text.isEmpty then Css.px length else text
  | none => Css.px length

def widthCss (layout : Layout α) : String := lengthCss layout.cssWidth layout.width

def heightCss (layout : Layout α) : String := lengthCss layout.cssHeight layout.height

def flexDeclarations (layout : Layout α) : List Css.Declaration :=
  let flex := layout.container
  [("display", "flex")] ++ givenDeclaration "flex-direction" flex.direction ++
    givenDeclaration "justify-content" flex.justifyContent ++
    givenDeclaration "align-items" flex.alignItems ++ givenDeclaration "flex-wrap" flex.wrap ++
    pxDeclaration "gap" flex.gap ++ pxDeclaration "row-gap" flex.rowGap ++
    pxDeclaration "column-gap" flex.columnGap

/-- What the box declares for its children. -/
def containerCss (layout : Layout α) : Css.Declarations :=
  .ofList ((if layout.display = .flex then layout.flexDeclarations else []) ++
    (match layout.padding with
     | some sides => [("padding", sidesCss sides)]
     | none => []) ++
    givenDeclaration "box-sizing" layout.boxSizing ++ givenDeclaration "overflow" layout.overflow)

def growDeclarations (item : FlexItem α) : List Css.Declaration :=
  [("flex-grow", Css.plainNumber item.grow)] ++
    (match item.shrink with
     | some shrink => [("flex-shrink", Css.plainNumber shrink)]
     | none => []) ++
    (match item.basis with
     | some (.symbolic text) => [("flex-basis", text)]
     | some (.number value) => [("flex-basis", Css.px value)]
     | none => [])

/-- What the box declares for its part in the flow. -/
def itemCss (layout : Layout α) : Css.Declarations :=
  .ofList ((if 0.0 < layout.item.grow then growDeclarations layout.item else []) ++
    (if layout.item.alignSelf = some "auto" then []
     else givenDeclaration "align-self" layout.item.alignSelf))

end Layout

end Artboard
