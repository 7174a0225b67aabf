import Artboard.Number.Exact

/-!
# Shortest decimal text of a floating-point number

The reals that round to a floating-point number form an interval, ends included
when its mantissa is even. The text has the fewest digits that stay inside; of
two candidates of that length the nearer one is taken. Seventeen digits always
suffice, and the exact value stands behind the search. Plain notation is used
for a leading digit between `10 ^ -4` and `10 ^ 15`.
-/
namespace Artboard

/-- A positive value `mantissa * 2 ^ exponent` with the interval that rounds to it. -/
structure Binary where
  mantissa : Nat
  exponent : Int
  /-- The gap below is half the gap above. -/
  narrow : Bool

/-- The decimal `digits * 10 ^ exponent`. -/
structure Decimal where
  digits : Nat
  exponent : Int
deriving DecidableEq

namespace Binary

def ofBits (word : UInt64) : Binary :=
  let exponent := ((word >>> 52) &&& 0x7FF).toNat
  let fraction := (word &&& 0xFFFFFFFFFFFFF).toNat
  if exponent = 0 then ⟨fraction, -1074, false⟩
  else ⟨(1 <<< 52) + fraction, (exponent : Int) - 1075, fraction == 0 && decide (1 < exponent)⟩

/-- Compares `digits * 10 ^ place` with `count * 2 ^ shift`. -/
def compareScaled (digits : Nat) (place : Int) (count : Nat) (shift : Int) : Ordering :=
  compare ((digits * Nat.pow 10 place.toNat) <<< (-shift).toNat)
    ((count * Nat.pow 10 (-place).toNat) <<< shift.toNat)

/-- The decimal lies among the reals that round to the value. -/
def readsBack (value : Binary) (decimal : Decimal) : Bool :=
  let low := if value.narrow then 4 * value.mantissa - 1 else 4 * value.mantissa - 2
  let high := 4 * value.mantissa + 2
  let ends := value.mantissa % 2 == 0
  let above := compareScaled decimal.digits decimal.exponent low (value.exponent - 2)
  let below := compareScaled decimal.digits decimal.exponent high (value.exponent - 2)
  (above == .gt || (ends && above == .eq)) && (below == .lt || (ends && below == .eq))

/-- The value in units of `10 ^ place`, rounded down, with the numerator and denominator used. -/
def inUnits (value : Binary) (place : Int) : Nat × Nat × Nat :=
  let num := (value.mantissa * Nat.pow 10 (-place).toNat) <<< value.exponent.toNat
  let den := Nat.pow 10 place.toNat <<< (-value.exponent).toNat
  (num / den, num, den)

/-- The neighbours of the value on the grid `10 ^ place` that read back, the nearer one first. -/
def onGrid (value : Binary) (place : Int) : Option Decimal :=
  let (low, num, den) := value.inUnits place
  let lower : Decimal := ⟨low, place⟩
  let upper : Decimal := ⟨low + 1, place⟩
  match value.readsBack lower, value.readsBack upper with
  | true, false => some lower
  | false, true => some upper
  | false, false => none
  | true, true =>
    match compare (2 * num) ((2 * low + 1) * den) with
    | .lt => some lower
    | .gt => some upper
    | .eq => if low % 2 = 0 then some lower else some upper

/-- The least `scale` with `value < 10 ^ scale`, near the estimate from the binary logarithm. -/
def scale (value : Binary) : Int :=
  let bits : Int := value.mantissa.log2 + value.exponent
  let guess := bits * 30103 / 100000
  let fits (candidate : Int) : Bool :=
    compareScaled 1 candidate value.mantissa value.exponent == .gt
  if fits guess then guess else if fits (guess + 1) then guess + 1 else guess + 2

/-- The exact decimal value. -/
def exactDecimal (value : Binary) : Decimal :=
  if 0 ≤ value.exponent then ⟨value.mantissa <<< value.exponent.toNat, 0⟩
  else ⟨value.mantissa * Nat.pow 5 (-value.exponent).toNat, value.exponent⟩

/-- The shortest decimal that reads back as the value, the nearest one of that length. -/
def shortest (value : Binary) : Decimal :=
  let scale := value.scale
  ((List.range 17).findSome? fun (count : Nat) => value.onGrid (scale - (count + 1))).getD
    value.exactDecimal

end Binary

namespace Decimal

/-- Moves trailing zeros of the digits into the exponent. -/
def normalize (decimal : Decimal) : Decimal :=
  go decimal.digits decimal.exponent decimal.digits.log2
where
  go (digits : Nat) (exponent : Int) : Nat → Decimal
    | 0 => ⟨digits, exponent⟩
    | fuel + 1 =>
      if digits % 10 = 0 ∧ digits ≠ 0 then go (digits / 10) (exponent + 1) fuel
      else ⟨digits, exponent⟩

def digitText (decimal : Decimal) : List Char := Nat.toDigits 10 decimal.digits

/-- At least two digits, with a sign. -/
def exponentText (exponent : Int) : List Char :=
  let digits := Nat.toDigits 10 exponent.natAbs
  let padded := if digits.length < 2 then '0' :: digits else digits
  (if exponent < 0 then '-' else '+') :: padded

/-- Plain notation from `10 ^ -4` up to below `10 ^ 16`, always with a fractional digit;
scientific notation elsewhere, without a fraction when there is one digit. -/
def text (decimal : Decimal) : List Char :=
  let digits := decimal.digitText
  let count : Int := digits.length
  let leading := decimal.exponent + count - 1
  if -4 ≤ leading ∧ leading < 16 then
    if 0 ≤ decimal.exponent then
      digits ++ List.replicate decimal.exponent.toNat '0' ++ ['.', '0']
    else if 0 ≤ leading then
      let whole := (leading + 1).toNat
      digits.take whole ++ '.' :: digits.drop whole
    else
      '0' :: '.' :: List.replicate (-leading - 1).toNat '0' ++ digits
  else
    match digits with
    | [] => []
    | [digit] => digit :: 'e' :: exponentText leading
    | digit :: rest => digit :: '.' :: rest ++ 'e' :: exponentText leading

end Decimal

/-- The shortest text that reads back as the number. -/
def shortestText (number : Float) : String :=
  let word := number.toBits
  match Exact.ofBits word with
  | .undefined => "nan"
  | .infinite negative => if negative then "-inf" else "inf"
  | .finite value =>
    let digits :=
      if value.num = 0 then ['0', '.', '0'] else (Binary.ofBits word).shortest.normalize.text
    String.ofList (if value.negative then '-' :: digits else digits)

end Artboard
