import Artboard.Number.Scalar

/-!
# Affine maps of the plane

The map sends `(x, y)` to `(a x + c y + e, b x + d y + f)`. Frames of nodes are
such maps, and the place of a node in its parent is its own map after the
inverse of the parent's. A map whose determinant is too small has no inverse.
-/
namespace Artboard

structure Affine (α : Type) where
  a : α
  b : α
  c : α
  d : α
  e : α
  f : α

/-- The linear part of a map: the images of the two basis vectors. -/
structure Linear (α : Type) where
  a : α
  b : α
  c : α
  d : α

variable {α : Type} [Scalar α]

namespace Linear

def identity : Linear α := ⟨1.0, 0.0, 0.0, 1.0⟩

/-- Every coefficient is within the tolerance of the identity's. -/
def isIdentityWithin (linear : Linear α) (tolerance : α) : Bool :=
  decide (Scalar.abs (linear.a - 1.0) < tolerance) && decide (Scalar.abs linear.b < tolerance) &&
    decide (Scalar.abs linear.c < tolerance) && decide (Scalar.abs (linear.d - 1.0) < tolerance)

def isIdentity (linear : Linear α) : Bool := linear.isIdentityWithin 1e-6

/-- A basis vector changes its length by more than the tolerance. -/
def scalesBeyond (linear : Linear α) (tolerance : α) : Bool :=
  Scalar.lengthsDiffer (linear.a, linear.b) (1.0, 0.0) tolerance ||
    Scalar.lengthsDiffer (linear.c, linear.d) (1.0, 0.0) tolerance

def scales (linear : Linear α) : Bool := linear.scalesBeyond 1e-6

def rotates (linear : Linear α) : Bool := Scalar.turned linear.b linear.a

def rotatesOrScales (linear : Linear α) : Bool := linear.rotates || linear.scales

end Linear

namespace Affine

def identity : Affine α := ⟨1.0, 0.0, 0.0, 1.0, 0.0, 0.0⟩

/-- The map that moves by an offset. -/
def shift (x y : α) : Affine α := ⟨1.0, 0.0, 0.0, 1.0, x, y⟩

/-- The second map first, then the first one. -/
def compose (first second : Affine α) : Affine α where
  a := first.a * second.a + first.c * second.b
  c := first.a * second.c + first.c * second.d
  e := first.a * second.e + first.c * second.f + first.e
  b := first.b * second.a + first.d * second.b
  d := first.b * second.c + first.d * second.d
  f := first.b * second.e + first.d * second.f + first.f

def determinant (map : Affine α) : α := map.a * map.d - map.b * map.c

/-- The inverse, unless the determinant is not finite or is within `1e-8` of zero. -/
def invert (map : Affine α) : Option (Affine α) :=
  let det := map.determinant
  if Scalar.isFinite det = false ∨ Scalar.abs det < 1e-8 then none
  else
    let a := map.d / det
    let b := -map.b / det
    let c := -map.c / det
    let d := map.a / det
    some { a, b, c, d, e := -(a * map.e + c * map.f), f := -(b * map.e + d * map.f) }

def apply (map : Affine α) (x y : α) : α × α :=
  (map.a * x + map.c * y + map.e, map.b * x + map.d * y + map.f)

def linear (map : Affine α) : Linear α := ⟨map.a, map.b, map.c, map.d⟩

def offset (map : Affine α) : α × α := (map.e, map.f)

def rotates (map : Affine α) : Bool := map.linear.rotates

def reflects (map : Affine α) : Bool := decide (map.determinant < -1e-10)

end Affine

end Artboard
