import Artboard.Markup.NameChar
import Artboard.Text.Entity

/-!
# Characters, names and references of a document

What the parts of a document are made of: the characters it may contain, gaps
between them, names with and without a prefix, references, and the comments and
instructions that leave no trace.
-/
namespace Artboard.Markup

abbrev Rest := List Char

/-- A character that a document may contain. -/
def isDocumentChar (c : Char) : Bool :=
  c = '\t' || c = '\n' || c = '\r' ||
    (decide (0x20 ≤ c.toNat) && c.toNat != 0xFFFE && c.toNat != 0xFFFF)

def isGap (c : Char) : Bool := c = ' ' || c = '\t' || c = '\n' || c = '\r'

def skipGaps (text : Rest) : Rest := text.dropWhile isGap

/-- The next character is a gap. -/
def startsWithGap (text : Rest) : Bool := (text.head?.map isGap).getD false

/-- What follows a given start. -/
def after? (start : String) (text : Rest) : Option Rest :=
  if start.toList.isPrefixOf text then some (text.drop start.length) else none

/-- A name without a prefix. -/
def simpleName : Rest → Option (List Char × Rest)
  | c :: rest =>
    if isNameStart c then
      let more := rest.takeWhile isNameChar
      some (c :: more, rest.drop more.length)
    else none
  | [] => none

/-- A name with its prefix, which is empty when there is none. -/
structure PrefixedName where
  start : List Char
  base : List Char
deriving DecidableEq

namespace PrefixedName

/-- The name as it is written. -/
def written (name : PrefixedName) : List Char :=
  if name.start.isEmpty then name.base else name.start ++ ':' :: name.base

/-- The name that is written with at most one colon. -/
def ofWritten (text : List Char) : PrefixedName :=
  match text.dropWhile (· != ':') with
  | _ :: base => ⟨text.takeWhile (· != ':'), base⟩
  | [] => ⟨[], text⟩

end PrefixedName

def prefixedName (text : Rest) : Option (PrefixedName × Rest) := do
  let (first, rest) ← simpleName text
  match rest with
  | ':' :: rest =>
    let (second, rest) ← simpleName rest
    match rest with
    | ':' :: _ => none
    | rest => some (⟨first, second⟩, rest)
  | rest => some (⟨[], first⟩, rest)

/-- What an ampersand starts: a character by its number, or a name. -/
inductive Reference where
  | number (c : Char)
  | name (name : List Char)

/-- The character of a reference by number. -/
def numberedChar (code : Nat) : Option Char :=
  if (0xD800 ≤ code ∧ code ≤ 0xDFFF) ∨ 0x10FFFF < code then none
  else if isDocumentChar (Char.ofNat code) then some (Char.ofNat code)
  else none

/-- A number in a base up to its semicolon. -/
def numberReference (base : Nat) (isDigit : Char → Bool) (text : Rest) :
    Option (Reference × Rest) :=
  let digits := text.takeWhile isDigit
  match digits, text.drop digits.length with
  | _ :: _, ';' :: rest =>
    (numberedChar (Text.numberInBase base digits)).map fun c => (.number c, rest)
  | _, _ => none

/-- A reference after its ampersand. -/
def reference? (text : Rest) : Option (Reference × Rest) :=
  match text with
  | '#' :: 'x' :: rest => numberReference 16 Text.isHexDigit rest
  | '#' :: rest => numberReference 10 Char.isDigit rest
  | text => do
    let (name, rest) ← simpleName text
    let rest ← after? ";" rest
    some (.name name, rest)

/-- The names that stand for a character in every document. -/
def predefinedChars : List (List Char × Char) :=
  [("amp".toList, '&'), ("lt".toList, '<'), ("gt".toList, '>'), ("quot".toList, '"'),
   ("apos".toList, '\'')]

/-- The rest after a comment, from behind its opening. -/
def skipComment : Rest → Option Rest
  | '-' :: '-' :: '>' :: rest => some rest
  | '-' :: '-' :: _ => none
  | c :: rest => if isDocumentChar c then skipComment rest else none
  | [] => none

def skipToInstructionEnd : Rest → Option Rest
  | '?' :: '>' :: rest => some rest
  | c :: rest => if isDocumentChar c then skipToInstructionEnd rest else none
  | [] => none

/-- The rest after an instruction, from behind its opening. Its target is not reserved. -/
def skipInstruction (text : Rest) : Option Rest := do
  let (target, rest) ← simpleName text
  if target.map Char.toLower = "xml".toList then none
  match rest with
  | '?' :: '>' :: rest => some rest
  | c :: rest => if isGap c then skipToInstructionEnd rest else none
  | [] => none

/-- The rest after a comment or an instruction, if the text starts with one. -/
def skipRemark (text : Rest) : Option Rest :=
  match text with
  | '<' :: '!' :: '-' :: '-' :: rest => skipComment rest
  | '<' :: '?' :: rest => skipInstruction rest
  | _ => none

end Artboard.Markup
