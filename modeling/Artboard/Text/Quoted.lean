import Artboard.Text.Printable
import Artboard.Text.Surrogate

/-!
# Quoted text in messages

A message quotes a text with single quotes, or with double quotes when the text
has a single quote and no double quote. The quote in use and the backslash are
escaped, and so is every character that is not printable.
-/
namespace Artboard.Text

def hexDigits (width code : Nat) : List Char :=
  let digits := Nat.toDigits 16 code
  List.replicate (width - digits.length) '0' ++ digits

/-- A character that is not printable, by its code. -/
def escapeCode (code : Nat) : List Char :=
  if code < 0x100 then '\\' :: 'x' :: hexDigits 2 code
  else if code < 0x10000 then '\\' :: 'u' :: hexDigits 4 code
  else '\\' :: 'U' :: hexDigits 8 code

/-- One character between quotes. -/
def escapeQuoted (quote c : Char) : List Char :=
  if c = quote ∨ c = '\\' then ['\\', c]
  else if c = '\t' then ['\\', 't']
  else if c = '\n' then ['\\', 'n']
  else if c = '\r' then ['\\', 'r']
  else if isPrintable c then [c]
  else escapeCode ((surrogateUnit? c).getD c.toNat)

def quoteFor (text : List Char) : Char :=
  if text.contains '\'' && !text.contains '"' then '"' else '\''

def quoted (text : List Char) : List Char :=
  let quote := quoteFor text
  quote :: text.flatMap (escapeQuoted quote) ++ [quote]

/-- Quoted text in which every character beyond the first 128 is escaped. -/
def quotedPlain (text : List Char) : List Char :=
  (quoted text).flatMap fun c => if c.toNat < 0x80 then [c] else escapeCode c.toNat

def quotedText (text : String) : String := String.ofList (quoted text.toList)

end Artboard.Text
