/-!
# Exact values of numbers

Text is chosen from the exact value of a number, never from an intermediate
rounding. A finite value is a sign and a quotient of naturals; the sign is kept
apart because zero has two. Rounding a quotient goes to the nearest integer, a
tie to the even one, and never moves the value by more than half a unit.
-/
namespace Artboard

/-- A signed quotient of naturals. -/
structure Quotient where
  negative : Bool
  num : Nat
  den : Nat
  den_pos : 0 < den := by decide

/-- What a number stands for. -/
inductive Exact where
  | finite (value : Quotient)
  | infinite (negative : Bool)
  | undefined

/-- The integer nearest to `num / den`, a tie going to the even neighbour. -/
def roundHalfEven (num den : Nat) : Nat :=
  let low := num / den
  let rest := num % den
  if 2 * rest < den then low
  else if den < 2 * rest then low + 1
  else if low % 2 = 0 then low else low + 1

theorem roundHalfEven_near (num den : Nat) (positive : 0 < den) :
    2 * (roundHalfEven num den * den) ≤ 2 * num + den ∧
      2 * num ≤ 2 * (roundHalfEven num den * den) + den := by
  have whole : den * (num / den) + num % den = num := Nat.div_add_mod num den
  have small : num % den < den := Nat.mod_lt _ positive
  simp only [roundHalfEven]
  generalize num / den = low at *
  generalize num % den = rest at *
  have succ : (low + 1) * den = den * low + den := by rw [Nat.add_mul, Nat.mul_comm]; simp
  have same : low * den = den * low := Nat.mul_comm ..
  generalize den * low = product at *
  split
  · omega
  · split
    · omega
    · split <;> omega

theorem roundHalfEven_tie_even (num den : Nat) (tie : 2 * (num % den) = den) :
    roundHalfEven num den % 2 = 0 := by
  have low : ¬ 2 * (num % den) < den := by omega
  have high : ¬ den < 2 * (num % den) := by omega
  simp only [roundHalfEven, low, high, if_false]
  split <;> omega

namespace Quotient

/-- The magnitude in units of `10 ^ -places`, rounded. -/
def scaled (value : Quotient) (places : Nat) : Nat :=
  roundHalfEven (value.num * Nat.pow 10 places) value.den

/-- The nearest integer. -/
def nearestInt (value : Quotient) : Int :=
  let magnitude : Int := roundHalfEven value.num value.den
  if value.negative then -magnitude else magnitude

/-- The least integer that is not below the value. -/
def ceil (value : Quotient) : Int :=
  let signed : Int := if value.negative then -(value.num : Int) else value.num
  (signed + (value.den - 1)) / value.den

def isInt (value : Quotient) : Bool := value.num % value.den == 0

/-- The integer toward zero. -/
def truncate (value : Quotient) : Int :=
  let magnitude : Int := (value.num / value.den : Nat)
  if value.negative then -magnitude else magnitude

end Quotient

namespace Exact

/-- Decodes the sign, exponent and fraction fields of a 64-bit floating-point word. -/
def ofBits (word : UInt64) : Exact :=
  let negative := word >>> 63 == 1
  let exponent := ((word >>> 52) &&& 0x7FF).toNat
  let fraction := (word &&& 0xFFFFFFFFFFFFF).toNat
  if exponent = 2047 then
    if fraction = 0 then .infinite negative else .undefined
  else
    let mantissa := if exponent = 0 then fraction else (1 <<< 52) + fraction
    let shift := if exponent = 0 then 1 else exponent
    if 1075 ≤ shift then
      .finite { negative, num := mantissa <<< (shift - 1075), den := 1 }
    else
      .finite { negative, num := mantissa, den := Nat.pow 2 (1075 - shift),
                den_pos := Nat.two_pow_pos _ }

def ofRat (value : Rat) : Exact :=
  .finite { negative := decide (value.num < 0), num := value.num.natAbs, den := value.den,
            den_pos := Nat.pos_of_ne_zero value.den_nz }

def isFinite : Exact → Bool
  | finite _ => true
  | _ => false

end Exact

end Artboard
