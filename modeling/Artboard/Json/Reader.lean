import Artboard.Json.Value
import Artboard.Number.Numeral
import Artboard.Text.Entity
import Artboard.Text.Surrogate

/-!
# Reading structured data

A text is one value between blanks. Numbers without fraction and exponent are
integers, whose digits are limited in number; the words for the infinities and for
no number are read too. Control characters may not stand in a string. Arrays and
objects may be nested to a limited depth.
-/
namespace Artboard.Json

/-- Why a text cannot be read. -/
inductive ReadError where
  | malformed
  | longInteger (digits : Nat)
  | deepArray
  | deepObject
deriving DecidableEq, Repr

/-- The most digits of an integer. -/
def maxDigits : Nat := 4300

/-- The most arrays and objects around a value. -/
def maxDepth : Nat := 990

namespace ReadError

def message : ReadError → String
  | malformed => "the text is not well formed"
  | longInteger digits =>
    s!"Exceeds the limit ({maxDigits} digits) for integer string conversion: value has {digits} " ++
      "digits; use sys.set_int_max_str_digits() to increase the limit"
  | deepArray => "maximum recursion depth exceeded while decoding a JSON array from a unicode string"
  | deepObject =>
    "maximum recursion depth exceeded while decoding a JSON object from a unicode string"

end ReadError

/-- A position in a text: what is left to read. -/
abbrev Rest := List Char

def isGap (c : Char) : Bool := c = ' ' || c = '\t' || c = '\n' || c = '\r'

def skipGaps (text : Rest) : Rest := text.dropWhile isGap

def dropWord (word : String) (text : Rest) : Option Rest :=
  if word.toList.isPrefixOf text then some (text.drop word.length) else none

/-- Four hexadecimal digits as one code unit. -/
def codeUnit : Rest → Option (Nat × Rest)
  | a :: b :: c :: d :: rest =>
    if [a, b, c, d].all Text.isHexDigit then some (Text.numberInBase 16 [a, b, c, d], rest)
    else none
  | _ => none

def isHighUnit (unit : Nat) : Bool := decide (0xD800 ≤ unit) && decide (unit < 0xDC00)

def isLowUnit (unit : Nat) : Bool := decide (0xDC00 ≤ unit) && decide (unit < 0xE000)

/-- The character of one code unit. -/
def unitChar (unit : Nat) : Char :=
  if Text.isSurrogateUnit unit then Text.ofSurrogateUnit unit else Char.ofNat unit

/-- The low half of a pair, if it is escaped here. -/
def lowUnit (text : Rest) : Option (Nat × Rest) :=
  match text with
  | '\\' :: 'u' :: rest => (codeUnit rest).filter fun found => isLowUnit found.1
  | _ => none

/-- The character after an escape mark for a code unit; two units make one character when they
form a pair, and a unit without its partner stands alone. -/
def unitEscape (text : Rest) : Option (Char × Rest) := do
  let (unit, rest) ← codeUnit text
  match if isHighUnit unit then lowUnit rest else none with
  | some (low, rest) => some (Char.ofNat (0x10000 + (unit - 0xD800) * 0x400 + (low - 0xDC00)), rest)
  | none => some (unitChar unit, rest)

def simpleEscape : Char → Option Char
  | '"' => some '"'
  | '\\' => some '\\'
  | '/' => some '/'
  | 'b' => some '\x08'
  | 'f' => some '\x0c'
  | 'n' => some '\n'
  | 'r' => some '\r'
  | 't' => some '\t'
  | _ => none

/-- The rest of a string after its opening quote; `read` holds its characters, last first. -/
def stringFrom : Nat → List Char → Rest → Option (String × Rest)
  | 0, _, _ => none
  | fuel + 1, read, text =>
    match text with
    | [] => none
    | '"' :: rest => some (String.ofList read.reverse, rest)
    | '\\' :: 'u' :: rest =>
      match unitEscape rest with
      | some (c, rest) => stringFrom fuel (c :: read) rest
      | none => none
    | '\\' :: mark :: rest =>
      match simpleEscape mark with
      | some c => stringFrom fuel (c :: read) rest
      | none => none
    | c :: rest => if c.toNat < 0x20 then none else stringFrom fuel (c :: read) rest

/-- The digits before the point: a zero alone, or digits that start with another one. -/
def wholeDigits : Rest → Option (List Char × Rest)
  | '0' :: rest => some (['0'], rest)
  | text =>
    let (digits, rest) := NumeralText.spanDigits text
    if digits.isEmpty then none else some (digits, rest)

/-- A fraction with at least one digit. -/
def fractionDigits : Rest → Option (List Char) × Rest
  | '.' :: rest =>
    let (digits, after) := NumeralText.spanDigits rest
    if digits.isEmpty then (none, '.' :: rest) else (some digits, after)
  | text => (none, text)

/-- The key of a member and what follows its colon. -/
def memberKey (fuel : Nat) (text : Rest) : Option (String × Rest) :=
  match text with
  | '"' :: rest => do
    let (key, rest) ← stringFrom fuel [] rest
    match skipGaps rest with
    | ':' :: rest => some (key, skipGaps rest)
    | _ => none
  | _ => none

/-- What a part of a text is read as, and the rest. -/
abbrev Reading (β : Type) := Except ReadError (β × Rest)

def orMalformed {β : Type} : Option (β × Rest) → Reading β
  | some found => .ok found
  | none => .error .malformed

def number (text : Rest) : Except ReadError (Json × Rest) := do
  let (negative, unsigned) :=
    match text with
    | '-' :: rest => (true, rest)
    | rest => (false, rest)
  let (whole, rest) ← orMalformed (wholeDigits unsigned)
  let (fraction, rest) := fractionDigits rest
  let (exponent, rest) := (NumeralText.exponentOf rest).getD (none, rest)
  if fraction.isNone && exponent.isNone then
    if maxDigits < whole.length then .error (.longInteger whole.length)
    else
      let size : Int := NumeralText.naturalOf whole
      return (.int (if negative then -size else size), rest)
  else return (.float (NumeralText.Parts.value { negative, whole, fraction, exponent }), rest)

/-- The words that stand for values. -/
def wordValues : List (String × Json) :=
  [("null", .null), ("true", .bool true), ("false", .bool false),
   ("NaN", .float (Float.ofBits 0x7FF8000000000000)),
   ("Infinity", .float (Float.ofBits 0x7FF0000000000000)),
   ("-Infinity", .float (Float.ofBits 0xFFF0000000000000))]

def word (text : Rest) : Option (Json × Rest) :=
  wordValues.findSome? fun (word, value) => (dropWord word text).map fun rest => (value, rest)

mutual

/-- A value without blanks around it, in which `levels` more arrays or objects may be nested.
Twice the length of the text is fuel enough: each bracket, comma and character takes two at most. -/
def value : Nat → Nat → Rest → Reading Json
  | 0, _, _ => .error .malformed
  | fuel + 1, levels, text =>
    match text, levels with
    | '"' :: rest, _ =>
      (orMalformed (stringFrom fuel [] rest)).map fun (text, rest) => (.string text, rest)
    | '[' :: _, 0 => .error .deepArray
    | '[' :: rest, levels + 1 =>
      match skipGaps rest with
      | ']' :: after => .ok (.array [], after)
      | rest => items fuel levels [] rest
    | '\x7b' :: _, 0 => .error .deepObject
    | '\x7b' :: rest, levels + 1 =>
      match skipGaps rest with
      | '\x7d' :: after => .ok (.object [], after)
      | rest => members fuel levels [] rest
    | text, _ =>
      match word text with
      | some found => .ok found
      | none => number text

/-- The items of an array from the next item on; `read` holds those before it, last first. -/
def items : Nat → Nat → List Json → Rest → Reading Json
  | 0, _, _, _ => .error .malformed
  | fuel + 1, levels, read, text =>
    match value fuel levels text with
    | .error cause => .error cause
    | .ok (item, rest) =>
      match skipGaps rest with
      | ']' :: after => .ok (.array (item :: read).reverse, after)
      | ',' :: after => items fuel levels (item :: read) (skipGaps after)
      | _ => .error .malformed

/-- The members of an object from the next key on. -/
def members : Nat → Nat → List (String × Json) → Rest → Reading Json
  | 0, _, _, _ => .error .malformed
  | fuel + 1, levels, read, text =>
    match memberKey fuel text with
    | none => .error .malformed
    | some (key, rest) =>
      match value fuel levels rest with
      | .error cause => .error cause
      | .ok (item, rest) =>
        let read := insertMember key item read
        match skipGaps rest with
        | '\x7d' :: after => .ok (.object read, after)
        | ',' :: after => members fuel levels read (skipGaps after)
        | _ => .error .malformed

end

/-- The value that a text holds. -/
def read (text : String) : Except ReadError Json := do
  let text := text.toList
  let (json, rest) ← value (2 * text.length + 2) maxDepth (skipGaps text)
  if (skipGaps rest).isEmpty then return json else .error .malformed

/-- The value that a text holds, if it can be read. -/
def ofText? (text : String) : Option Json := (read text).toOption

end Artboard.Json
