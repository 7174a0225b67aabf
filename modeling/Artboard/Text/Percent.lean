import Artboard.Text.Quoted

/-!
# Percent encoding

Letters, digits and `_ . - ~` stand for themselves; every other character is
written as its bytes, each a percent sign and two capital hexadecimal digits.
-/
namespace Artboard.Text

def isUnreserved (c : Char) : Bool :=
  c.isAlphanum || c = '_' || c = '.' || c = '-' || c = '~'

def percentByte (byte : UInt8) : List Char :=
  '%' :: (hexDigits 2 byte.toNat).map Char.toUpper

def percentChar (c : Char) : List Char :=
  if isUnreserved c then [c] else (String.utf8EncodeChar c).flatMap percentByte

def percentEncode (text : List Char) : List Char := text.flatMap percentChar

end Artboard.Text
