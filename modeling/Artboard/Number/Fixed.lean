import Artboard.Number.Exact

/-!
# Decimal text with a fixed number of places

A magnitude is given in units of the last place. The trimmed form drops trailing
zeros and then a trailing point, which is the form of every length and
coefficient in a stylesheet.
-/
namespace Artboard.Fixed

/-- Decimal digits, at least `width` of them. -/
def padded (width count : Nat) : List Char :=
  let digits := Nat.toDigits 10 count
  List.replicate (width - digits.length) '0' ++ digits

/-- `units / 10 ^ places` with exactly `places` fractional digits. -/
def digits (units places : Nat) : List Char :=
  let whole := Nat.toDigits 10 (units / Nat.pow 10 places)
  if places = 0 then whole else whole ++ '.' :: padded places (units % Nat.pow 10 places)

def dropTrailing (unwanted : Char) (text : List Char) : List Char :=
  (text.reverse.dropWhile (· == unwanted)).reverse

/-- Drops trailing zeros, then a trailing point. -/
def trim (text : List Char) : List Char := dropTrailing '.' (dropTrailing '0' text)

/-- Fixed places with the sign kept, also on a value that rounds to zero. -/
def signed : Exact → Nat → String
  | .undefined, _ => "nan"
  | .infinite negative, _ => if negative then "-inf" else "inf"
  | .finite value, places =>
    let text := digits (value.scaled places) places
    String.ofList (if value.negative then '-' :: text else text)

/-- Trimmed fixed places; a value that rounds to zero, or is not finite, is `0`. With no
places the digits are trimmed as well, so `10` is written `1` and `0` has no digits left. -/
def trimmed : Exact → Nat → String
  | .finite value, places =>
    let units := value.scaled places
    if units = 0 then "0"
    else
      let text := trim (digits units places)
      String.ofList (if value.negative then '-' :: text else text)
  | _, _ => "0"

/-- Integers without a fraction, other values with up to `places` trimmed digits. -/
def compact (value : Quotient) (places : Nat) : String :=
  let units := value.scaled places
  let text :=
    if units % Nat.pow 10 places = 0 then Nat.toDigits 10 (units / Nat.pow 10 places)
    else trim (digits units places)
  String.ofList (if value.negative ∧ units ≠ 0 then '-' :: text else text)

end Artboard.Fixed
