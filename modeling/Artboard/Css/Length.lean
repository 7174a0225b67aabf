import Artboard.Affine
import Artboard.Fault

/-!
# Numbers in stylesheets

Lengths and coefficients are rounded to two places unless another count is
given, and trimmed. The arguments of a matrix have up to six places.
-/
namespace Artboard.Css

variable {α : Type} [Scalar α]

def number (value : α) (places : Nat) : String := Fixed.trimmed (Scalar.exact value) places

/-- No floating-point number has more places. -/
def maxPlaces : Nat := 1074

/-- From this count of places on, a unit of the last place is zero as a floating-point number. -/
def vanishingPlaces : Nat := 324

def isNegativeZero (value : α) : Bool :=
  match Scalar.exact value with
  | .finite quotient => quotient.negative && quotient.num == 0
  | _ => false

/-- A number to a count of places, which is not negative for a finite number. Nothing is below a
unit that vanishes, so that a negative zero keeps its sign there. -/
def numberTo (value : α) (places : Int) : Except Fault String :=
  if places < 0 ∧ Scalar.isFinite value then .error .negativePlaces
  else if (vanishingPlaces : Int) ≤ places ∧ isNegativeZero value then .ok "-0"
  else .ok (number value (min places.toNat maxPlaces))

def px (value : α) : String := number value 2 ++ "px"

/-- Integers without a fraction, other numbers as their shortest text. -/
def plainNumber (value : α) : String :=
  match Scalar.exact value with
  | .finite quotient =>
    if quotient.isInt then toString quotient.truncate else Scalar.text value
  | _ => Scalar.text value

/-- One argument of a matrix; a magnitude below `1e-10` is zero. -/
def matrixNumber (value : α) : Except Fault String :=
  if Scalar.abs value < 1e-10 then .ok "0"
  else
    match Scalar.exact value with
    | .finite quotient => .ok (Fixed.compact quotient 6)
    | .infinite _ => .error .infiniteNumber
    | .undefined => .error .notANumber

/-- A linear part with an optional offset. -/
def matrix (linear : Linear α) (e f : α) : Except Fault String := do
  let values ← [linear.a, linear.b, linear.c, linear.d, e, f].mapM matrixNumber
  return "matrix(" ++ String.intercalate "," values ++ ")"

/-- A linear part without offset. -/
def linearMatrix (linear : Linear α) : Except Fault String := matrix linear 0.0 0.0

end Artboard.Css
