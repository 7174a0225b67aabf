import Artboard.Number.Exact

/-!
# Reading numbers from text

A numeral is an optional sign, digits with an optional fraction, and an optional
exponent. A floating-point number is the correctly rounded value, which is an
infinity when it is too large.
-/
namespace Artboard.NumeralText

def naturalOf (digits : List Char) : Nat :=
  digits.foldl (fun total c => total * 10 + (c.toNat - '0'.toNat)) 0

def spanDigits (text : List Char) : List Char × List Char :=
  (text.takeWhile Char.isDigit, text.dropWhile Char.isDigit)

/-- Splits a sign off. -/
def signOf : List Char → Bool × List Char
  | '-' :: rest => (true, rest)
  | '+' :: rest => (false, rest)
  | rest => (false, rest)

/-- Exponents beyond this size decide between zero and infinity alone. -/
def exponentLimit : Nat := 100000

/-- `digits * 10 ^ exponent`, correctly rounded. -/
def floatOf (negative : Bool) (digits : Nat) (exponent : Int) : Float :=
  let magnitude :=
    if digits = 0 then Float.ofScientific 0 false 0
    else if exponent < 0 then
      if exponentLimit < exponent.natAbs then Float.ofScientific 0 false 0
      else Float.ofScientific digits true exponent.natAbs
    else if exponentLimit < exponent.natAbs then Float.ofBits 0x7FF0000000000000
    else Float.ofScientific digits false exponent.natAbs
  if negative then -magnitude else magnitude

/-- A numeral taken apart. -/
structure Parts where
  negative : Bool
  whole : List Char
  fraction : Option (List Char)
  exponent : Option Int

/-- The fraction after a point, if there is one. -/
def fractionOf : List Char → Option (List Char) × List Char
  | '.' :: rest =>
    let (digits, rest) := spanDigits rest
    (some digits, rest)
  | rest => (none, rest)

/-- The exponent, which needs a digit; `none` when the mark has no digits after it. -/
def exponentOf : List Char → Option (Option Int × List Char)
  | [] => some (none, [])
  | mark :: rest =>
    if mark = 'e' ∨ mark = 'E' then
      let (negative, rest) := signOf rest
      let (digits, rest) := spanDigits rest
      if digits.isEmpty then none
      else
        let size : Int := naturalOf digits
        some (some (if negative then -size else size), rest)
    else some (none, mark :: rest)

namespace Parts

def value (parts : Parts) : Float :=
  let fraction := parts.fraction.getD []
  floatOf parts.negative (naturalOf (parts.whole ++ fraction))
    (parts.exponent.getD 0 - fraction.length)

end Parts

/-- The whole text as a numeral with at least one digit in front of the exponent. -/
def parts? (text : List Char) : Option Parts :=
  let (negative, rest) := signOf text
  let (whole, rest) := spanDigits rest
  let (fraction, rest) := fractionOf rest
  if whole.isEmpty && (fraction.getD []).isEmpty then none
  else
    match exponentOf rest with
    | some (exponent, []) => some { negative, whole, fraction, exponent }
    | _ => none

end Artboard.NumeralText
