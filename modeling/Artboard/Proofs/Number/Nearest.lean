import Artboard.Number.Scalar
import Mathlib.Algebra.Order.Field.Rat
import Mathlib.Algebra.Order.Field.Power
import Mathlib.Data.Nat.Prime.Basic
import Mathlib.Data.Set.Finite.Lemmas
import Mathlib.Data.Finite.Prod
import Mathlib.Order.Interval.Finset.Nat
import Mathlib.Data.Int.Interval
import Mathlib.Tactic.FieldSimp
import Mathlib.Tactic.Linarith
import Mathlib.Tactic.NormNum
import Mathlib.Tactic.Ring

/-!
# Nearest numbers

A number is rounded to decimal places and then to the floating-point number that is
nearest to the decimal. The second rounding does no harm: a floating-point number
that is rounded this way is rounded to the same decimal again. No distances between
floating-point numbers are needed for it, since the first number competes for being
the nearest.
-/
namespace Artboard

/-! ### Integers -/

/-- No integer is nearer to the value, and the integer is even if another one is as near. -/
structure IsNearestInt (value : Rat) (nearest : Int) : Prop where
  near : 2 * |nearest - value| ≤ 1
  even : 2 * |nearest - value| = 1 → nearest % 2 = 0

theorem IsNearestInt.unique {value : Rat} {first second : Int} (one : IsNearestInt value first)
    (other : IsNearestInt value second) : first = second := by
  have apart : |(first : Rat) - second| ≤ |first - value| + |second - value| := by
    rw [abs_sub_comm (second : Rat) value]
    exact abs_sub_le _ _ _
  have near : |first - second| ≤ 1 := by
    have bound : |(first : Rat) - second| ≤ 1 := by linarith [one.near, other.near]
    exact_mod_cast bound
  by_contra differ
  have exact_one : |first - second| = 1 :=
    le_antisymm near (Int.one_le_abs (sub_ne_zero.mpr differ))
  -- Two integers that are nearest lie on both sides, and one of them would be odd.
  have whole : |(first : Rat) - second| = 1 := by exact_mod_cast exact_one
  have even := one.even (by linarith [one.near, other.near])
  have even' := other.even (by linarith [one.near, other.near])
  rcases abs_cases (first - second) with ⟨same, -⟩ | ⟨same, -⟩ <;> omega

theorem IsNearestInt.neg {value : Rat} {nearest : Int} (rounds : IsNearestInt value nearest) :
    IsNearestInt (-value) (-nearest) := by
  have same : |((-nearest : Int) : Rat) - -value| = |(nearest : Rat) - value| := by
    rw [Int.cast_neg, neg_sub_neg, abs_sub_comm]
  refine ⟨same ▸ rounds.near, fun tie => ?_⟩
  have even := rounds.even (same ▸ tie)
  omega

/-- What is no further away from the integer is rounded to it too. -/
theorem IsNearestInt.of_nearer {value other : Rat} {nearest : Int}
    (rounds : IsNearestInt value nearest) (nearer : |nearest - other| ≤ |nearest - value|) :
    IsNearestInt other nearest where
  near := by linarith [rounds.near]
  even tie := rounds.even (by linarith [rounds.near])

private theorem roundHalfEven_cases (num den : Nat) :
    roundHalfEven num den = num / den ∨ roundHalfEven num den = num / den + 1 := by
  rw [roundHalfEven]
  split
  · exact .inl rfl
  · split
    · exact .inr rfl
    · split
      · exact .inl rfl
      · exact .inr rfl

theorem isNearestInt_roundHalfEven (num : Nat) {den : Nat} (positive : 0 < den) :
    IsNearestInt (num / den) (roundHalfEven num den) := by
  have size : (0 : Rat) < den := Nat.cast_pos.mpr positive
  -- Twice the distance times the denominator is an integer, about which the naturals know all.
  have off : 2 * |((roundHalfEven num den : Int) : Rat) - num / den| * den =
      (|2 * (roundHalfEven num den * den : Nat) - 2 * (num : Int)| : Int) := by
    have scaled : (2 * (roundHalfEven num den * den : Nat) - 2 * num : Rat) =
        2 * ((roundHalfEven num den : Rat) - num / den) * den := by
      push_cast
      field_simp
    push_cast at scaled ⊢
    rw [scaled, abs_mul, abs_mul, Nat.abs_ofNat, Nat.abs_cast]
  obtain ⟨above, below⟩ := roundHalfEven_near num den positive
  constructor
  case near =>
    refine le_of_mul_le_mul_right ?_ size
    rw [off, one_mul]
    have bound : |2 * (roundHalfEven num den * den : Nat) - 2 * (num : Int)| ≤ den :=
      abs_le.mpr ⟨by omega, by omega⟩
    exact_mod_cast bound
  case even =>
    intro tie
    rw [tie, one_mul] at off
    have half : |2 * (roundHalfEven num den * den : Nat) - 2 * (num : Int)| = den := by
      exact_mod_cast off.symm
    have even : roundHalfEven num den % 2 = 0 := by
      refine roundHalfEven_tie_even num den ?_
      have whole : den * (num / den) + num % den = num := Nat.div_add_mod num den
      have small : num % den < den := Nat.mod_lt _ positive
      -- Half a unit from the integer below and half a unit from the one above are the same place.
      rcases roundHalfEven_cases num den with low | high
      · rw [low, Nat.mul_comm] at half
        rcases abs_cases (2 * (den * (num / den) : Nat) - 2 * (num : Int)) with
          ⟨same, -⟩ | ⟨same, -⟩ <;> omega
      · rw [high, Nat.mul_comm, Nat.mul_add, Nat.mul_one] at half
        rcases abs_cases (2 * (den * (num / den) + den : Nat) - 2 * (num : Int)) with
          ⟨same, -⟩ | ⟨same, -⟩ <;> omega
    omega

namespace Quotient

/-- The value as a rational number. -/
def toRat (value : Quotient) : Rat := (Exact.finite value).toRat

/-- The value in units of `10 ^ -places`, rounded. -/
def units (value : Quotient) (places : Nat) : Int :=
  if value.negative then -(value.scaled places : Int) else value.scaled places

theorem natAbs_units (value : Quotient) (places : Nat) :
    (value.units places).natAbs = value.scaled places := by
  rw [units]
  split
  · rw [Int.natAbs_neg, Int.natAbs_natCast]
  · rw [Int.natAbs_natCast]

theorem toRat_eq (value : Quotient) :
    value.toRat =
      if value.negative then -(value.num / value.den : Rat) else value.num / value.den := by
  change (if value.negative then -(mkRat value.num value.den) else mkRat value.num value.den) = _
  rw [Rat.mkRat_eq_div, Int.cast_natCast]

theorem exists_toRat (value : Rat) : ∃ quotient : Quotient, quotient.toRat = value := by
  refine ⟨{ negative := decide (value.num < 0), num := value.num.natAbs, den := value.den,
            den_pos := value.den_pos }, ?_⟩
  simp only [toRat_eq, decide_eq_true_eq, Nat.cast_natAbs, Int.cast_abs]
  split
  next negative =>
    rw [abs_of_neg (Int.cast_lt_zero.mpr negative), neg_div, neg_neg, Rat.num_div_den]
  next nonneg =>
    rw [abs_of_nonneg (Int.cast_nonneg (not_lt.mp nonneg)), Rat.num_div_den]

theorem isNearestInt_units (value : Quotient) (places : Nat) :
    IsNearestInt (value.toRat * 10 ^ places) (value.units places) := by
  have magnitude : IsNearestInt (value.num / value.den * 10 ^ places) (value.scaled places) := by
    have rounds := isNearestInt_roundHalfEven (value.num * Nat.pow 10 places) value.den_pos
    rw [Nat.cast_mul, mul_div_right_comm] at rounds
    simpa [Quotient.scaled] using rounds
  rw [toRat_eq, units]
  split
  · rw [neg_mul]
    exact magnitude.neg
  · exact magnitude

end Quotient

/-! ### Floating-point numbers -/

/-- A finite number of the binary format with a significand of 53 bits. -/
def IsDouble (value : Rat) : Prop :=
  ∃ significand exponent : Int, |significand| < 2 ^ 53 ∧ -1074 ≤ exponent ∧ exponent ≤ 971 ∧
    value = significand * (2 : Rat) ^ exponent

theorem isDouble_zero : IsDouble 0 :=
  ⟨0, 0, by norm_num, by norm_num, by norm_num, by norm_num⟩

theorem IsDouble.neg {value : Rat} (double : IsDouble value) : IsDouble (-value) := by
  obtain ⟨significand, exponent, bound, low, high, rfl⟩ := double
  exact ⟨-significand, exponent, by rwa [abs_neg], low, high, by push_cast; ring⟩

/-- The least positive number. -/
theorem isDouble_least : IsDouble ((2 : Rat) ^ (-1074 : Int)) :=
  ⟨1, -1074, by norm_num, le_rfl, by norm_num, by norm_num⟩

/-- Every number is a multiple of a power of two that is small enough. -/
theorem IsDouble.multiple {value : Rat} (double : IsDouble value) {shift : Nat}
    (fine : 1074 ≤ shift) : ∃ count : Int, value * 2 ^ shift = count := by
  obtain ⟨significand, exponent, -, low, -, rfl⟩ := double
  -- The exponent is no less than that of the shift, so what is left of it is a natural power.
  obtain ⟨power, raised⟩ := Int.eq_ofNat_of_zero_le (show 0 ≤ exponent + shift by omega)
  refine ⟨significand * 2 ^ power, ?_⟩
  have product : (2 : Rat) ^ exponent * 2 ^ shift = 2 ^ power := by
    rw [← zpow_natCast, ← zpow_natCast, ← zpow_add₀ two_ne_zero, raised]
  rw [mul_assoc, product]
  push_cast
  rfl

theorem finite_isDouble : {value | IsDouble value}.Finite := by
  refine (((Set.finite_Ioo (-2 ^ 53 : Int) (2 ^ 53)).prod (Set.finite_Icc (-1074 : Int) 971)).image
    fun parts => (parts.1 : Rat) * (2 : Rat) ^ parts.2).subset ?_
  rintro value ⟨significand, exponent, bound, low, high, rfl⟩
  exact ⟨(significand, exponent), ⟨abs_lt.mp bound, low, high⟩, rfl⟩

private theorem IsDouble.signed {value : Quotient} (double : IsDouble (value.num / value.den)) :
    IsDouble (Exact.finite value).toRat := by
  change IsDouble value.toRat
  rw [Quotient.toRat_eq]
  split
  · exact double.neg
  · exact double

private theorem isDouble_parts (negative : Bool) {significand shift : Nat}
    (bound : significand < 2 ^ 53) (low : 1 ≤ shift) (high : shift ≤ 2046) :
    IsDouble (if 1075 ≤ shift then
        Exact.finite { negative, num := significand <<< (shift - 1075), den := 1 }
      else
        Exact.finite { negative, num := significand, den := Nat.pow 2 (1075 - shift),
                       den_pos := Nat.two_pow_pos _ }).toRat := by
  have bound : |(significand : Int)| < 2 ^ 53 := by
    rw [Nat.abs_cast]
    exact_mod_cast bound
  split
  next large =>
    obtain ⟨extra, rfl⟩ := Nat.exists_eq_add_of_le large
    refine .signed ⟨significand, extra, bound, by omega, by omega, ?_⟩
    simp [Nat.shiftLeft_eq]
  next small =>
    obtain ⟨missing, sum⟩ := Nat.exists_eq_add_of_le (not_le.mp small).le
    refine .signed ⟨significand, -missing, bound, by omega, by omega, ?_⟩
    simp [sum, div_eq_mul_inv]

/-- The number of a word is a floating-point number. -/
theorem isDouble_ofBits (word : UInt64) : IsDouble (Exact.ofBits word).toRat := by
  -- The masks bound both fields, and an exponent of 2047 is the one of what is not finite.
  have fraction : (word &&& 0xFFFFFFFFFFFFF).toNat < 2 ^ 52 := by
    rw [UInt64.toNat_and]
    exact Nat.lt_of_le_of_lt Nat.and_le_right (by decide)
  have exponent : ((word >>> 52) &&& 0x7FF).toNat < 2 ^ 11 := by
    rw [UInt64.toNat_and]
    exact Nat.lt_of_le_of_lt Nat.and_le_right (by decide)
  unfold Exact.ofBits
  dsimp only
  split
  · split <;> exact isDouble_zero
  next finite =>
    refine isDouble_parts _ ?_ ?_ ?_ <;> split <;> omega

/-! ### The nearest floating-point number -/

/-- No floating-point number is nearer to the value. -/
structure IsNearestDouble (value double : Rat) : Prop where
  isDouble : IsDouble double
  nearest : ∀ other, IsDouble other → |double - value| ≤ |other - value|

theorem exists_nearestDouble (value : Rat) : ∃ double, IsNearestDouble value double := by
  obtain ⟨double, isDouble, nearest⟩ :=
    Set.exists_min_image _ (fun double => |double - value|) finite_isDouble ⟨0, isDouble_zero⟩
  exact ⟨double, isDouble, nearest⟩

theorem IsNearestDouble.neg {value double : Rat} (nearest : IsNearestDouble value double) :
    IsNearestDouble (-value) (-double) where
  isDouble := nearest.isDouble.neg
  nearest other isDouble := by
    have same (number : Rat) : |-number - -value| = |number - value| := by
      rw [neg_sub_neg, abs_sub_comm]
    rw [same, ← neg_neg other, same]
    exact nearest.nearest _ isDouble.neg

/-- The second rounding keeps the decimal of the first: a floating-point number competes for
being the nearest to its own decimal. -/
theorem IsNearestDouble.isNearestInt {value rounded : Rat} {units : Int} {places : Nat}
    (nearest : IsNearestDouble (units / 10 ^ places) rounded) (double : IsDouble value)
    (rounds : IsNearestInt (value * 10 ^ places) units) :
    IsNearestInt (rounded * 10 ^ places) units := by
  have scale : (0 : Rat) < 10 ^ places := by positivity
  have distance (other : Rat) :
      |units - other * 10 ^ places| = |other - units / 10 ^ places| * 10 ^ places := by
    rw [abs_sub_comm, ← abs_of_pos scale, ← abs_mul, abs_of_pos scale, sub_mul,
      div_mul_cancel₀ _ scale.ne']
  -- The value is one of the numbers that the nearest is no further away than.
  refine rounds.of_nearer ?_
  rw [distance, distance]
  exact mul_le_mul_of_nonneg_right (nearest.nearest value double) scale.le

/-- Two floating-point numbers do not lie evenly around a unit of a decimal place. -/
theorem IsDouble.add_ne {first second : Rat} (one : IsDouble first) (other : IsDouble second)
    {places : Nat} (fractional : 0 < places) : first + second ≠ 2 * (1 / 10 ^ places) := by
  intro sum
  obtain ⟨shift, fine⟩ : ∃ shift, 1074 ≤ shift := ⟨_, le_rfl⟩
  obtain ⟨count, first_eq⟩ := one.multiple fine
  obtain ⟨count', second_eq⟩ := other.multiple fine
  have product : (count + count' : Rat) * 10 ^ places = 2 ^ (shift + 1) := by
    rw [← first_eq, ← second_eq, ← add_mul, sum, pow_succ]
    field_simp
  have whole : (count + count') * 10 ^ places = 2 ^ (shift + 1) := by exact_mod_cast product
  -- Five divides the left side only.
  have five : (5 : Int) ∣ 2 ^ (shift + 1) :=
    whole ▸ Dvd.dvd.mul_left (dvd_pow (by decide : (5 : Int) ∣ 10) fractional.ne') _
  have base : 5 ∣ 2 := Nat.prime_five.dvd_of_dvd_pow (by exact_mod_cast five)
  exact absurd base (by decide)

private theorem le_midpoint {low high point : Rat} (order : low < high)
    (closer : |low - point| ≤ |high - point|) : 2 * point ≤ low + high := by
  rcases abs_cases (low - point) with ⟨near, side⟩ | ⟨near, side⟩ <;>
    rcases abs_cases (high - point) with ⟨far, side'⟩ | ⟨far, side'⟩ <;> linarith

private theorem midpoint_le {low high point : Rat} (order : low < high)
    (closer : |high - point| ≤ |low - point|) : low + high ≤ 2 * point := by
  have mirrored : 2 * -point ≤ -high + -low := le_midpoint (neg_lt_neg order) (by
    rwa [neg_sub_neg, neg_sub_neg, abs_sub_comm point, abs_sub_comm point])
  linarith

/-- A decimal that is not zero is no closer to zero than a unit of the last place, also after both
have become floating-point numbers. -/
theorem IsNearestDouble.unit_le_abs {unit rounded : Rat} {units : Int} {places : Nat}
    (smallest : IsNearestDouble (1 / 10 ^ places) unit)
    (nearest : IsNearestDouble (units / 10 ^ places) rounded) (fractional : 0 < places)
    (nonzero : units ≠ 0) : unit ≤ |rounded| := by
  -- The magnitudes suffice, so let both be positive.
  wlog positive : 0 < units generalizing units rounded
  · have negated := nearest.neg
    rw [← neg_div, ← Int.cast_neg] at negated
    rw [← abs_neg]
    exact this negated (by omega) (by omega)
  refine le_trans ?_ (le_abs_self rounded)
  by_contra less
  rw [not_le] at less
  -- Both decimals would be in the middle of the two floating-point numbers.
  have above := le_midpoint less (nearest.nearest unit smallest.isDouble)
  have below := midpoint_le less (smallest.nearest rounded nearest.isDouble)
  have order : 1 / 10 ^ places ≤ (units : Rat) / 10 ^ places := by
    gcongr
    exact_mod_cast positive
  exact nearest.isDouble.add_ne smallest.isDouble fractional (by linarith)

private theorem zpow_neg_lt_unit {places : Nat} (shift : Nat) (size : 10 ^ places < 2 * 2 ^ shift) :
    (2 : Rat) ^ (-shift : Int) < 2 * (1 / 10 ^ places) := by
  rw [zpow_neg, zpow_natCast, ← one_div, mul_one_div, div_lt_div_iff₀ (by positivity)
    (by positivity), one_mul]
  exact_mod_cast size

/-- A unit of a decimal place is positive while the least number is closer to it than zero. -/
theorem IsNearestDouble.unit_pos {unit : Rat} {places : Nat}
    (smallest : IsNearestDouble (1 / 10 ^ places) unit) (visible : places < 324) : 0 < unit := by
  have close : (2 : Rat) ^ (-1074 : Int) < 2 * (1 / 10 ^ places) := by
    refine zpow_neg_lt_unit 1074 ?_
    calc 10 ^ places ≤ 10 ^ 323 :=
          Nat.pow_le_pow_right (by decide) (Nat.le_of_lt_succ visible)
      _ < 2 * 2 ^ 1074 := by decide +kernel
  by_contra negative
  -- Otherwise the least number would be closer to the unit than this one.
  have positive : (0 : Rat) < 2 ^ (-1074 : Int) := by positivity
  have order : unit < 2 ^ (-1074 : Int) := by linarith
  have below := le_midpoint order (smallest.nearest _ isDouble_least)
  linarith

end Artboard
