import Artboard.Text.Quoted

/-!
# Faults of templates

Why a template cannot be expanded: its braces do not match, a field has no value,
or the value of a field cannot be shown in the way that is asked for.
-/
namespace Artboard.Text

inductive TemplateError where
  | unknownField (name : String)
  | positionalField (index : Nat)
  /-- A character of a value is asked for that it does not have. -/
  | missingCharacter
  /-- A part of a value is asked for by a name that is no number. -/
  | namedCharacter
  | unknownAttribute
  | loneBrace (brace : Char)
  | unclosedField
  | nestedBrace
  | missingConversion
  | unendedConversion
  | unknownConversion (conversion : Char)
  | unclosedSpec
  /-- The fields in the spec of a field have specs with fields. -/
  | nestedTooDeep
  | longNumber
  | strayAfterIndex
  | emptyAttribute
  | unclosedIndex
  | invalidSpec (spec : String)
  | missingPrecision
  | bothSeparators
  | separatorWithType (separator type : Char)
  | signOfText (sign : Char)
  | zeroOfText
  | alternateText
  | alignmentOfText
  | unknownType (type : Char)
  /-- A value is asked for in more characters than can be kept. -/
  | tooWide
deriving DecidableEq, Repr

namespace TemplateError

/-- A character in a message, by its code unless it is a visible one of the first 128. -/
def shownChar (limit : Nat) (c : Char) : String :=
  if 32 < c.toNat ∧ c.toNat < limit then String.singleton c
  else "\\x" ++ String.ofList (Nat.toDigits 16 c.toNat)

def message : TemplateError → String
  | unknownField name => quotedText name
  | positionalField index => s!"Replacement index {index} out of range for positional args tuple"
  | missingCharacter => "string index out of range"
  | namedCharacter => "string indices must be integers, not 'str'"
  | unknownAttribute => "no such attribute"
  | loneBrace brace => s!"Single '{brace}' encountered in format string"
  | unclosedField => "expected '\x7d' before end of string"
  | nestedBrace => "unexpected '\x7b' in field name"
  | missingConversion => "end of string while looking for conversion specifier"
  | unendedConversion => "expected ':' after conversion specifier"
  | unknownConversion c =>
    let shown := shownChar 127 c
    s!"Unknown conversion specifier {shown}"
  | unclosedSpec => "unmatched '\x7b' in format spec"
  | nestedTooDeep => "Max string recursion exceeded"
  | longNumber => "Too many decimal digits in format string"
  | strayAfterIndex => "Only '.' or '[' may follow ']' in format field specifier"
  | emptyAttribute => "Empty attribute in format string"
  | unclosedIndex => "Missing ']' in format string"
  | invalidSpec spec => s!"Invalid format specifier '{spec}' for object of type 'str'"
  | missingPrecision => "Format specifier missing precision"
  | bothSeparators => "Cannot specify both ',' and '_'."
  | separatorWithType separator type =>
    let shown := shownChar 128 type
    s!"Cannot specify '{separator}' with '{shown}'."
  | signOfText sign =>
    (if sign = ' ' then "Space" else "Sign") ++ " not allowed in string format specifier"
  | zeroOfText => "Negative zero coercion (z) not allowed in string format specifier"
  | alternateText => "Alternate form (#) not allowed in string format specifier"
  | alignmentOfText => "'=' alignment not allowed in string format specifier"
  | unknownType type =>
    let shown := shownChar 128 type
    s!"Unknown format code '{shown}' for object of type 'str'"
  | tooWide => ""

end TemplateError

end Artboard.Text
