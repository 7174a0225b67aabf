import Artboard.Json.Value
import Artboard.Number.Scalar
import Artboard.Schema.Numeral
import Artboard.Text.Case
import Artboard.Text.Surrogate

/-!
# Fields of a document

A field has a written name and an inner name; the written one wins. Values are
converted where nothing is lost: numbers and truth values may be written as
text, and an integer may be written with an empty fraction. A text with half a
character in it is accepted only where texts are kept as they are.
-/
namespace Artboard.Schema

abbrev Members := List (String × Json)

/-- A name in words joined by underscores becomes the written name with inner capitals. -/
def writtenNameOf : List Char → List Char
  | '_' :: c :: rest => c.toUpper :: writtenNameOf rest
  | c :: rest => c :: writtenNameOf rest
  | [] => []

def writtenName (name : String) : String := String.ofList (writtenNameOf name.toList)

/-- The value of a field under its written name, else under its inner name, with that name. -/
def lookupField (members : Members) (name : String) : Option (String × Json) :=
  match members.lookup (writtenName name) with
  | some value => some (writtenName name, value)
  | none => (members.lookup name).map fun value => (name, value)

/-- A field with a default. -/
def field {β : Type} (members : Members) (name : String) (read : Json → Checked β) (default : β) :
    Checked β :=
  match lookupField members name with
  | some (used, value) => (read value).below (.key used)
  | none => .valid default

/-- A field that must be there. -/
def required {β : Type} (members : Members) (name : String) (read : Json → Checked β) : Checked β :=
  match lookupField members name with
  | some (used, value) => (read value).below (.key used)
  | none => .invalid [⟨.missing, [.key (writtenName name)]⟩]

/-- A value that may be null. -/
def nullable {β : Type} (read : Json → Checked β) : Json → Checked (Option β)
  | .null => .valid none
  | value => (read value).map some

def object {β : Type} (read : Members → Checked β) : Json → Checked β
  | .object members => read members
  | _ => .fail .objectExpected

def list {β : Type} (read : Json → Checked β) : Json → Checked (List β)
  | .array items => .each read items
  | _ => .fail .listExpected

def string : Json → Checked String
  | .string text => .valid text
  | _ => .fail .stringExpected

/-- Reads a text of whole characters. -/
def whole {β : Type} (text : String) (read : String → Checked β) : Checked β :=
  if Text.isWhole text then read text else .fail .halfCharacter

/-- An integer as a floating-point number, unless it is too large for one. -/
def floatOfInt (value : Int) : Option Float :=
  let value := Float.ofInt value
  if Scalar.isFinite value then some value else none

def float : Json → Checked Float
  | .int value =>
    match floatOfInt value with
    | some value => .valid value
    | none => .fail .floatExpected
  | .float value => .valid value
  | .bool value => .valid (if value then 1.0 else 0.0)
  | .string text =>
    whole text fun text =>
      match floatOfText text.toList with
      | some value => .valid value
      | none => .fail .floatUnreadable
  | _ => .fail .floatExpected

/-- The least size that does not fit 64 bits with a sign. -/
def shortLimit : Nat := 1 <<< 63

/-- An integer of 64 bits with a sign. -/
def isShortInt (value : Int) : Bool :=
  decide (-(shortLimit : Int) ≤ value) && decide (value < shortLimit)

/-- A number without a fraction that is less than `2 ^ 63` in size. -/
def intOfFloat (value : Float) : Checked Int :=
  match Exact.ofBits value.toBits with
  | .finite quotient =>
    if !quotient.isInt then .fail .intFromFraction
    else if shortLimit ≤ quotient.truncate.natAbs then .fail .intOutOfRange
    else .valid quotient.truncate
  | _ => .fail .finiteExpected

def int : Json → Checked Int
  | .int value => .valid value
  | .float value => intOfFloat value
  | .bool value => .valid (if value then 1 else 0)
  | .string text => whole text fun text => intOfText text.toList
  | _ => .fail .intExpected

def trueWords : List String := ["1", "true", "t", "yes", "y", "on"]

def falseWords : List String := ["0", "false", "f", "no", "n", "off"]

def boolOfInt (value : Int) : Checked Bool :=
  if value = 0 then .valid false
  else if value = 1 then .valid true
  else .fail .boolUnreadable

def boolOfText (text : String) : Checked Bool :=
  let word := String.ofList (text.toList.map Char.toLower)
  if trueWords.contains word then .valid true
  else if falseWords.contains word then .valid false
  else .fail .boolUnreadable

def bool : Json → Checked Bool
  | .bool value => .valid value
  | .int value => if isShortInt value then boolOfInt value else .fail .boolExpected
  | .float value =>
    match intOfFloat value with
    | .valid value => boolOfInt value
    | .invalid _ => .fail .boolExpected
  | .string text => whole text boolOfText
  | _ => .fail .boolExpected

/-- One of the named values of a table; another one is an issue of the given kind. -/
def oneOf {β : Type} (unknown : IssueKind) (table : List (String × β)) : Json → Checked β
  | .string text =>
    whole text fun text =>
      match table.lookup text with
      | some value => .valid value
      | none => .fail unknown
  | _ => .fail unknown

/-- One of the named members of a set. -/
def member {β : Type} (table : List (String × β)) : Json → Checked β := oneOf .unknownMember table

/-- One of the given words. -/
def literal {β : Type} (table : List (String × β)) : Json → Checked β := oneOf .unknownLiteral table

/-- Four numbers; a missing one is an issue at its position. -/
def fourFloats : Json → Checked (Float × Float × Float × Float)
  | .array items =>
    if 4 < items.length then .fail .tooLong
    else
      let item (index : Nat) : Checked Float :=
        Checked.below (.item index)
          (match items[index]? with
           | some value => float value
           | none => .fail .missing)
      (fun a b c d => (a, b, c, d)) <$> item 0 <*> item 1 <*> item 2 <*> item 3
  | _ => .fail .tupleExpected

end Artboard.Schema
