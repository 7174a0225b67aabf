import Artboard.Paint.Color

/-!
# Gradients

A linear gradient takes its angle from its transform in proportion to the box,
else from its first two handles, else it runs downwards. A gradient with fewer
than two stops draws nothing.
-/
namespace Artboard.Paint

variable {α : Type} [Scalar α]

/-- The length along an axis where it is positive, one elsewhere. -/
def scaledBy (coefficient length : α) : α :=
  if 0.0 < length then coefficient * length else coefficient

/-- The angle of the transformed first axis, clockwise from the top. -/
def angleOfTransform (transform : Affine α) (width height : α) : Except Fault Int := do
  let turn := 90.0 - Scalar.degrees (scaledBy transform.b height) (scaledBy transform.a width)
  let angle ← nearestInt (if turn < 0.0 then turn + 360.0 else turn)
  return angle % 360

/-- The angle from the first handle to the second, clockwise from the top. -/
def angleOfHandles (first second : Point α) : Except Fault Int :=
  nearestInt (180.0 - Scalar.degrees (second.x - first.x) (second.y - first.y))

def linearAngle (gradient : Gradient α) (width height : α) : Except Fault Int :=
  match gradient.transform, gradient.handles with
  | some transform, _ => angleOfTransform transform width height
  | none, some (first :: second :: _) => angleOfHandles first second
  | none, _ => .ok 180

def stopCss (opacity : α) (stop : GradientStop α) : Except Fault String := do
  let color ← colorCss stop.color opacity
  return s!"{color} {Fixed.signed (Scalar.exact (stop.position * 100.0)) 2}%"

/-- The value of a gradient, unless it has fewer than two stops. -/
def gradientCss (gradient : Gradient α) (opacity width height : α) :
    Except Fault (Option String) := do
  if gradient.stops.length < 2 then return none
  let stops := String.intercalate ", " (← gradient.stops.mapM (stopCss opacity))
  match gradient.kind with
  | .linear =>
    let angle ← linearAngle gradient width height
    return some s!"linear-gradient({angle}deg, {stops})"
  | .radial => return some s!"radial-gradient(circle, {stops})"
  | .angular => return some s!"conic-gradient(from 0deg, {stops})"
  | .diamond => return some s!"radial-gradient(ellipse, {stops})"

end Artboard.Paint
