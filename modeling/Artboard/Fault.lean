import Artboard.Number.Scalar
import Artboard.Text.Address
import Artboard.Text.Template

/-!
# Faults

What stops a composition from being compiled or drawn. A violated condition on
the input names the node that violates it; the other faults come from numbers
without an integer value, from templates and from requests that make no sense.
-/
namespace Artboard

/-- A size that is no finite number, as it was declared. -/
inductive DeclaredSize where
  | absent
  | number (text : String)
  | symbolic (text : String)
deriving DecidableEq, Repr

inductive Axis where
  | width
  | height
deriving DecidableEq, Repr

namespace Axis

def name : Axis → String
  | width => "width"
  | height => "height"

end Axis

/-- A condition on the input that does not hold. -/
inductive Violation where
  | missingOrigin
  | missingTransform (node : String)
  | missingMaskTransform (mask : String)
  | missingContainerTransform (container : String)
  | singularParent (node : String)
  | singularContainer (container : String)
  | missingVectorBounds (node : String)
  | missingTopLevelBounds (index : Nat) (node : String)
  | invisibleNode (node : String)
  | invalidSize (axis : Axis) (declared : DeclaredSize) (node : String)
  | nothingVisible
deriving DecidableEq, Repr

inductive Fault where
  | violation (cause : Violation)
  /-- A number that must become an integer is no number. -/
  | notANumber
  /-- A number that must become an integer is infinite. -/
  | infiniteNumber
  /-- An integer that must become a floating-point number is too large. -/
  | largeInteger
  /-- A number is to be written with a negative count of places. -/
  | negativePlaces
  | template (cause : Text.TemplateError)
  | address (cause : Text.AddressError)
  /-- Markup that must be encoded to be read has half a character in it. -/
  | unencodable (cause : Text.EncodingError)
  | unknownMode (name : String)
  | unknownAlignment (name : String)
  | shortRow (length : Nat)
deriving DecidableEq, Repr

namespace DeclaredSize

def shown : DeclaredSize → String
  | absent => "None"
  | number text => text
  | symbolic text => Text.quotedText text

end DeclaredSize

namespace Violation

/-- The node that violates the condition, where there is one. -/
def node? : Violation → Option String
  | missingOrigin => none
  | missingTransform node => some node
  | missingMaskTransform mask => some mask
  | missingContainerTransform container => some container
  | singularParent node => some node
  | singularContainer container => some container
  | missingVectorBounds node => some node
  | missingTopLevelBounds _ node => some node
  | invisibleNode node => some node
  | invalidSize _ _ node => some node
  | nothingVisible => none

def description : Violation → String
  | missingOrigin => "composition has no absolute origin"
  | missingTransform _ => "node has no absolute transform"
  | missingMaskTransform _ => "mask has no absolute transform"
  | missingContainerTransform _ => "container has no absolute transform"
  | singularParent _ => "parent transform is not invertible"
  | singularContainer _ => "container transform is not invertible"
  | missingVectorBounds _ => "vector content requires render bounds"
  | missingTopLevelBounds index _ => s!"top-level child {index} has no render bounds"
  | invisibleNode _ => "invisible node reached node compilation"
  | invalidSize axis declared _ => s!"invalid {axis.name}: {declared.shown}"
  | nothingVisible => "composition has no visible nodes to render"

def message (cause : Violation) : String :=
  match cause.node? with
  | some node => s!"{cause.description} (node {node})"
  | none => cause.description

end Violation

namespace Fault

def message : Fault → String
  | violation cause => cause.message
  | notANumber => "cannot convert float NaN to integer"
  | infiniteNumber => "cannot convert float infinity to integer"
  | largeInteger => "int too large to convert to float"
  | negativePlaces => "Format specifier missing precision"
  | template cause => cause.message
  | address cause => cause.message
  | unencodable cause => cause.message
  | unknownMode name => s!"unknown markup mode: {Text.quotedText name}"
  | unknownAlignment name => s!"{Text.quotedText name} is not a valid LayoutAlign"
  | shortRow length => s!"not enough values to unpack (expected 3, got {length})"

end Fault

/-- An integer as a number, unless it is too large. -/
def numberOfInt {α : Type} [Scalar α] (value : Int) : Except Fault α :=
  let number : α := Scalar.ofInt value
  if Scalar.isFinite number then .ok number else .error .largeInteger

/-- The nearest integer, which only a finite number has. -/
def nearestInt {α : Type} [Scalar α] (value : α) : Except Fault Int :=
  match Scalar.exact value with
  | .finite value => .ok value.nearestInt
  | .infinite _ => .error .infiniteNumber
  | .undefined => .error .notANumber

/-- The least integer that is not below the number. -/
def ceilInt {α : Type} [Scalar α] (value : α) : Except Fault Int :=
  match Scalar.exact value with
  | .finite value => .ok value.ceil
  | .infinite _ => .error .infiniteNumber
  | .undefined => .error .notANumber

end Artboard
