import Artboard.Number.Shortest
import Artboard.Number.Fixed

/-!
# Scalars

Geometry, colours and style are computed over any type of numbers with the
operations below, each in a fixed order. Floating-point numbers are the ones a
document carries. Rationals obey the laws of a field, so what is proved over
them concerns the same definitions without rounding.

The length of a vector and the turn of a basis vector are not rational. What is
needed of them are comparisons with a tolerance, and these are decided exactly
in both instances.
-/
namespace Artboard

class Scalar (α : Type) extends Add α, Sub α, Mul α, Div α, Neg α, BEq α, LT α, LE α,
    OfScientific α where
  decLt : DecidableLT α
  decLe : DecidableLE α
  abs : α → α
  ofInt : Int → α
  exact : α → Exact
  /-- Shortest text. -/
  text : α → String
  /-- The lengths of two vectors are further apart than the tolerance. -/
  lengthsDiffer : (first second : α × α) → (tolerance : α) → Bool
  /-- The lesser of the number and positive infinity; infinity if they do not compare. -/
  cappedAbove : α → α
  /-- The greater of the number and negative infinity; infinity if they do not compare. -/
  cappedBelow : α → α
  /-- The direction of `(x, y)` in degrees, counter-clockwise from the first axis. -/
  degrees : (y x : α) → α

namespace Scalar

variable {α : Type} [Scalar α]

instance : DecidableLT α := decLt
instance : DecidableLE α := decLe
instance : Inhabited α := ⟨0.0⟩

/-- The first number unless the second is greater. -/
def max (first second : α) : α := if first < second then second else first

/-- The first number unless the second is less. -/
def min (first second : α) : α := if second < first then second else first

def isZero (value : α) : Bool := value == 0.0

def isFinite (value : α) : Bool := (exact value).isFinite

/-- The tangent of the angle `0.00005`, beyond which a basis vector counts as turned. -/
def turnTangent : Quotient :=
  { negative := false, num := 500000000416666724926, den := 10000000000000000000000000 }

/-- The direction of `(x, y)` is more than `0.00005` away from that of the first axis. A vector
of length zero has the direction of the first axis, on either side of it. -/
def turned (y x : α) : Bool :=
  match exact y, exact x with
  | .undefined, _ => false
  | _, .undefined => false
  | .infinite _, _ => true
  | .finite _, .infinite negative => negative
  | .finite y, .finite x =>
    if x.num = 0 then decide (y.num ≠ 0) || x.negative
    else
      x.negative ||
        decide (turnTangent.num * x.num * y.den < y.num * x.den * turnTangent.den)

end Scalar

/-- `sqrt (total * 4 ^ -places)` correctly rounded: the integer root keeps at least 64 bits, and
one more bit says whether it was exact. -/
def roundedRoot (total places : Nat) : Float :=
  let extra := 64
  let scaled := total <<< (2 * extra)
  let root := scaled.sqrt
  let sticky := if root * root = scaled then 0 else 1
  let shift := places + extra + 1
  Float.ofScientific ((2 * root + sticky) * Nat.pow 5 shift) true shift

/-- The length of a vector, correctly rounded; infinite if a component is. -/
def vectorLength (x y : Float) : Float :=
  match Exact.ofBits x.toBits, Exact.ofBits y.toBits with
  | .infinite _, _ => Float.ofBits 0x7FF0000000000000
  | _, .infinite _ => Float.ofBits 0x7FF0000000000000
  | .undefined, _ => x
  | _, .undefined => y
  | .finite a, .finite b =>
    let den := a.den * b.den
    let total := (a.num * b.den) * (a.num * b.den) + (b.num * a.den) * (b.num * a.den)
    roundedRoot total den.log2

instance : Scalar Float where
  decLt := Float.decLt
  decLe := Float.decLe
  abs := Float.abs
  ofInt := Float.ofInt
  exact number := Exact.ofBits number.toBits
  text := shortestText
  lengthsDiffer first second tolerance :=
    tolerance < (vectorLength first.1 first.2 - vectorLength second.1 second.2).abs
  cappedAbove number :=
    let infinity := Float.ofBits 0x7FF0000000000000
    if number < infinity then number else infinity
  cappedBelow number :=
    let infinity := Float.ofBits 0xFFF0000000000000
    if infinity < number then number else infinity
  degrees y x := Float.atan2 y x * 57.29577951308232

/-- Numerator and denominator, the latter only when it is not one. -/
def quotientText (value : Rat) : String :=
  let sign := if value.num < 0 then "-" else ""
  let num := sign ++ String.ofList (Nat.toDigits 10 value.num.natAbs)
  if value.den = 1 then num else num ++ "/" ++ String.ofList (Nat.toDigits 10 value.den)

/-- Squaring decides a comparison of `sqrt p - sqrt q` with a tolerance: the difference exceeds it
when `p + q - tolerance ^ 2` is positive and its square exceeds `4 * p * q`. -/
def rootsDiffer (p q tolerance : Rat) : Bool :=
  decide (tolerance < 0) ||
    (let rest := p + q - tolerance * tolerance
     decide (0 < rest) && decide (4 * p * q < rest * rest))

/-- A floating-point approximation, for directions only. -/
def approximate (value : Rat) : Float := Float.ofInt value.num / Float.ofNat value.den

/-- The exact value of a floating-point number; what is not finite counts as zero. -/
def Exact.toRat : Exact → Rat
  | .finite value =>
    let magnitude : Rat := mkRat value.num value.den
    if value.negative then -magnitude else magnitude
  | _ => 0

instance : Scalar Rat where
  decLt := inferInstance
  decLe := inferInstance
  abs := Rat.abs
  ofInt := fun value => value
  exact := Exact.ofRat
  text := quotientText
  lengthsDiffer first second tolerance :=
    rootsDiffer (first.1 * first.1 + first.2 * first.2) (second.1 * second.1 + second.2 * second.2)
      tolerance
  cappedAbove number := number
  cappedBelow number := number
  degrees y x :=
    (Exact.ofBits (Float.atan2 (approximate y) (approximate x) * 57.29577951308232).toBits).toRat

end Artboard
