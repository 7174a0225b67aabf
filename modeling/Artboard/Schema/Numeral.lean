import Artboard.Number.Numeral
import Artboard.Schema.Issue
import Artboard.Text.Range

/-!
# Numbers in the texts of a document

A number may be written as text with blanks around it, and single underscores may
stand inside it. A fractional number with underscores has no blanks around it. An
integer may have zeros in front of it and an empty fraction behind it.
-/
namespace Artboard.Schema

/-- The blanks around a number in text. -/
def isSpace (c : Char) : Bool :=
  Text.inRanges [(0x9, 0xD), (0x20, 0x20), (0x85, 0x85), (0xA0, 0xA0), (0x1680, 0x1680),
    (0x2000, 0x200A), (0x2028, 0x2029), (0x202F, 0x202F), (0x205F, 0x205F), (0x3000, 0x3000)] c

def trimSpaces (text : List Char) : List Char :=
  ((text.dropWhile isSpace).reverse.dropWhile isSpace).reverse

/-- The text without its underscores, none of which is at an end or beside another one. -/
def withoutUnderscores (text : List Char) : Option (List Char) :=
  if text.head? = some '_' ∨ text.getLast? = some '_' ∨
      (text.zip (text.drop 1)).contains ('_', '_') then none
  else some (text.filter (· != '_'))

/-- The words for values that are not finite, with an optional sign. -/
def specialFloat (text : List Char) : Option Float :=
  let (negative, word) := NumeralText.signOf (text.map Char.toLower)
  let word := String.ofList word
  if word = "inf" ∨ word = "infinity" then
    some (Float.ofBits (if negative then 0xFFF0000000000000 else 0x7FF0000000000000))
  else if word = "nan" then some (Float.ofBits 0x7FF8000000000000)
  else none

/-- A number that is the whole text. -/
def plainFloat (text : List Char) : Option Float :=
  (specialFloat text).orElse fun _ => (NumeralText.parts? text).map NumeralText.Parts.value

def floatOfText (text : List Char) : Option Float :=
  (plainFloat (trimSpaces text)).orElse fun _ => (withoutUnderscores text).bind plainFloat

/-- What is left of an integer that started with a zero when the zeros and underscores at its start
are dropped; `zero` is the character in front of it. -/
def dropZeros (zero : Char) : List Char → Option (List Char)
  | [] => some [zero]
  | c :: rest =>
    if c = '0' ∨ c = '_' then dropZeros c rest
    else if c = '-' ∨ ('1' ≤ c ∧ c ≤ '9') then some (c :: rest)
    else if c = '.' then some (zero :: c :: rest)
    else none

/-- An integer without the zeros in front of it. -/
def withoutZeros : List Char → Option (List Char)
  | '0' :: rest => dropZeros '0' rest
  | c :: rest => if c = '-' ∨ ('1' ≤ c ∧ c ≤ '9') then some (c :: rest) else none
  | [] => none

/-- Drops a fraction of zeros. -/
def withoutFraction (text : List Char) : List Char :=
  match text.dropWhile (· != '.') with
  | _ :: zeros => if !zeros.isEmpty && zeros.all (· == '0') then text.takeWhile (· != '.') else text
  | [] => text

/-- The sign of an integer, which it may have once, and what follows the sign. -/
def splitSign : List Char → Option (Bool × List Char)
  | '+' :: '-' :: _ => none
  | '+' :: rest => some (false, rest)
  | '-' :: '-' :: _ => none
  | '-' :: rest => some (true, rest)
  | rest => some (false, rest)

/-- The sign and the digits of an integer in text, still with what may follow the digits. -/
def cleanInt (text : List Char) : Option (List Char) := do
  let (negative, rest) ← splitSign (trimSpaces text)
  let rest ← withoutZeros rest
  let rest ← withoutUnderscores (withoutFraction rest)
  some (if negative then '-' :: rest else rest)

/-- The most characters that an integer in text may have. -/
def maxIntLength : Nat := 4300

/-- A minus sign and digits without zeros in front of them. -/
def plainInt (text : List Char) : Checked Int :=
  let (negative, rest) :=
    match text with
    | '-' :: rest => (true, rest)
    | rest => (false, rest)
  match rest with
  | ['0'] => .valid 0
  | '0' :: _ => .fail .intUnreadable
  | rest =>
    let (digits, after) := NumeralText.spanDigits rest
    if digits.isEmpty then .fail .intUnreadable
    else if maxIntLength < digits.length + (if negative then 1 else 0) then .fail .intOutOfRange
    else if !after.isEmpty then .fail .intUnreadable
    else
      let size : Int := NumeralText.naturalOf digits
      .valid (if negative then -size else size)

def intOfText (text : List Char) : Checked Int :=
  match cleanInt text with
  | some text => plainInt text
  | none => .fail .intUnreadable

end Artboard.Schema
