import Artboard.Fault
import Mathlib.Algebra.Order.Floor.Ring
import Mathlib.Data.Rat.Floor

/-!
# Rational numbers

Over the rationals the operations on numbers are the usual ones, and the integer that
a number is rounded up to is its ceiling.
-/
namespace Artboard

theorem zero_rat : (0.0 : Rat) = 0 := by
  decide +kernel

theorem one_rat : (1.0 : Rat) = 1 := by
  decide +kernel

theorem two_rat : (2.0 : Rat) = 2 := by
  decide +kernel

theorem scalarMin_rat (first second : Rat) : Scalar.min first second = min first second := by
  rw [Scalar.min]
  split
  next less => exact (min_eq_right less.le).symm
  next other => exact (min_eq_left (not_lt.mp other)).symm

theorem scalarMax_rat (first second : Rat) : Scalar.max first second = max first second := by
  rw [Scalar.max]
  split
  next less => exact (max_eq_right less.le).symm
  next other => exact (max_eq_left (not_lt.mp other)).symm

theorem scalarAbs_rat (value : Rat) : Scalar.abs value = |value| := by
  change (if 0 ≤ value then value else -value) = |value|
  split
  next nonneg => exact (abs_of_nonneg nonneg).symm
  next other => exact (abs_of_neg (not_le.mp other)).symm

/-- Rounding the numerator up to the next multiple of the denominator. -/
private theorem add_pred_ediv (num : Int) {den : Int} (positive : 0 < den) :
    (num + (den - 1)) / den = -(-num / den) := by
  have whole : den * (-num / den) + -num % den = -num := Int.mul_ediv_add_emod ..
  have least : 0 ≤ -num % den := Int.emod_nonneg _ positive.ne'
  have small : -num % den < den := Int.emod_lt_of_pos _ positive
  have rest : num + (den - 1) = den - 1 - -num % den + den * -(-num / den) := by
    rw [mul_neg]
    omega
  rw [rest, Int.add_mul_ediv_left _ _ positive.ne', Int.ediv_eq_zero_of_lt (by omega) (by omega),
    zero_add]

theorem ceilInt_rat (value : Rat) : ceilInt value = .ok ⌈value⌉ := by
  have positive : (0 : Int) < value.den := Int.natCast_pos.mpr value.den_pos
  -- The sign and the magnitude make up the numerator again.
  have signed : (if decide (value.num < 0) = true then -(value.num.natAbs : Int)
      else value.num.natAbs) = value.num := by
    simp only [decide_eq_true_eq]
    split <;> omega
  rw [Rat.ceil_def', ← add_pred_ediv _ positive]
  change Except.ok (((if decide (value.num < 0) = true then -(value.num.natAbs : Int)
      else value.num.natAbs) + (value.den - 1)) / value.den) = _
  rw [signed]

end Artboard
