import Artboard.Json.Value
import Artboard.Number.Scalar
import Artboard.Text.Quoted

/-!
# Writing structured data

Compact text with the members of objects in order. Numbers that are not integers
have the fewest digits that read back. Of the characters of a text only the
quote, the backslash, the control characters and half characters are escaped.
-/
namespace Artboard.Json

def escapeUnit (unit : Nat) : List Char := '\\' :: 'u' :: Text.hexDigits 4 unit

def escapeChar (c : Char) : List Char :=
  if c = '"' ∨ c = '\\' then ['\\', c]
  else if c.toNat < 0x20 then escapeUnit c.toNat
  else
    match Text.surrogateUnit? c with
    | some unit => escapeUnit unit
    | none => [c]

def quote (text : String) : String :=
  String.ofList ('"' :: text.toList.flatMap escapeChar ++ ['"'])

/-- A number; the ones that are not finite have names. -/
def floatText (value : Float) : String :=
  match Scalar.exact value with
  | .finite _ => shortestText value
  | .infinite negative => if negative then "-Infinity" else "Infinity"
  | .undefined => "NaN"

mutual

def text : Json → String
  | .null => "null"
  | .bool value => if value then "true" else "false"
  | .int value => toString value
  | .float value => floatText value
  | .string value => quote value
  | .array items => "[" ++ String.intercalate "," (texts items) ++ "]"
  | .object members => "\x7b" ++ String.intercalate "," (memberTexts members) ++ "\x7d"

def texts : List Json → List String
  | [] => []
  | item :: rest => item.text :: texts rest

def memberTexts : List (String × Json) → List String
  | [] => []
  | (key, value) :: rest => (quote key ++ ":" ++ value.text) :: memberTexts rest

end

end Artboard.Json
