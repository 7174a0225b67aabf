import Artboard.Affine
import Artboard.Fault

/-!
# Geometry of a design

Points, sizes and rectangles as a design declares them. A declared length is a
number or a symbolic length such as a percentage.
-/
namespace Artboard

variable {α : Type} [Scalar α]

structure Point (α : Type) where
  x : α
  y : α

structure Size (α : Type) where
  width : α
  height : α

structure Rect (α : Type) where
  x : α
  y : α
  width : α
  height : α

def Rect.zero : Rect α := ⟨0.0, 0.0, 0.0, 0.0⟩

inductive Dimension (α : Type) where
  | number (value : α)
  | symbolic (text : String)

namespace Dimension

def number? : Dimension α → Option α
  | number value => some value
  | symbolic _ => none

def symbol? : Dimension α → Option String
  | number _ => none
  | symbolic text => some text

end Dimension

/-- Values for the four sides of a box. -/
structure Sides (α : Type) where
  top : α
  right : α
  bottom : α
  left : α

namespace Sides

def toList (sides : Sides α) : List α := [sides.top, sides.right, sides.bottom, sides.left]

def map {β : Type} (f : α → β) (sides : Sides α) : Sides β :=
  ⟨f sides.top, f sides.right, f sides.bottom, f sides.left⟩

def isUniform (sides : Sides α) : Bool :=
  sides.top == sides.right && sides.right == sides.bottom && sides.bottom == sides.left

def isZero (sides : Sides α) : Bool := sides.toList.all Scalar.isZero

def max (sides : Sides α) : α :=
  Scalar.max (Scalar.max (Scalar.max sides.top sides.right) sides.bottom) sides.left

end Sides

/-- Values for the four corners of a box, clockwise. -/
structure Corners (α : Type) where
  topLeft : α
  topRight : α
  bottomRight : α
  bottomLeft : α

namespace Corners

def toList (corners : Corners α) : List α :=
  [corners.topLeft, corners.topRight, corners.bottomRight, corners.bottomLeft]

def map {β : Type} (f : α → β) (corners : Corners α) : Corners β :=
  ⟨f corners.topLeft, f corners.topRight, f corners.bottomRight, f corners.bottomLeft⟩

def all (value : α) : Corners α := ⟨value, value, value, value⟩

def isUniform (corners : Corners α) : Bool :=
  corners.topLeft == corners.topRight && corners.topRight == corners.bottomRight &&
    corners.bottomRight == corners.bottomLeft

def isZero (corners : Corners α) : Bool := corners.toList.all Scalar.isZero

end Corners

/-- Corner radii, declared once or for each corner. -/
structure Radii (α : Type) where
  uniform : Option α
  corners : Option (Corners α)

/-- A positive uniform radius wins over the radii of the corners. -/
def Radii.toCorners (radii : Radii α) : Corners α :=
  match radii.uniform with
  | some radius =>
    if 0.0 < radius then .all radius else radii.corners.getD (.all 0.0)
  | none => radii.corners.getD (.all 0.0)

end Artboard
