import Artboard.Proofs.Number.Digits
import Artboard.Proofs.Number.Nearest
import Mathlib.Data.List.DropRight

/-!
# Canonical decimals

A number is written in one step, from its exact value. The same text comes out in
several: the number is rounded to the floating-point number nearest to its decimal,
replaced by zero if it is below a unit of the last place, written with all its places,
and the zeros and the point at the end are dropped. Either way the text is the one
canonical decimal of the exact value rounded once.
-/
namespace Artboard

namespace Fixed

/-! ### Numerals of units -/

private theorem head?_toDigits {count : Nat} (positive : 0 < count) :
    (Nat.toDigits 10 count).head? ≠ some '0' := by
  induction count using Nat.strongRecOn with
  | ind count ih =>
    rcases lt_or_ge count 10 with small | large
    · have digits : ∀ digit < 10, 0 < digit → [digit.digitChar].head? ≠ some '0' := by decide
      rw [Nat.toDigits_of_lt_base small]
      exact digits count small positive
    · -- The first digit is that of the number without its last digit.
      rw [Nat.toDigits_of_base_le (by decide) large,
        List.head?_append_of_ne_nil _ Nat.toDigits_ne_nil]
      exact ih _ (by omega) (by omega)

private theorem getLast?_dropTrailing (unwanted : Char) (text : List Char) :
    (dropTrailing unwanted text).getLast? ≠ some unwanted := by
  intro ends
  have nonempty : dropTrailing unwanted text ≠ [] := by
    intro empty
    simp [empty] at ends
  rw [List.getLast?_eq_some_getLast nonempty, Option.some.injEq] at ends
  exact List.rdropWhile_last_not (· == unwanted) text nonempty (beq_iff_eq.mpr ends)

/-- The characters that are dropped. -/
private theorem eq_dropTrailing_append (unwanted : Char) (text : List Char) :
    ∃ count, text = dropTrailing unwanted text ++ List.replicate count unwanted := by
  have dropped : ∀ c ∈ text.rtakeWhile (· == unwanted), c = unwanted :=
    fun c member => beq_iff_eq.mp (List.mem_rtakeWhile_imp (p := (· == unwanted)) member)
  refine ⟨(text.rtakeWhile (· == unwanted)).length, ?_⟩
  rw [← List.eq_replicate_of_mem dropped]
  exact List.rdropWhile_append_rtakeWhile.symm

/-- A fraction stays the same without the zeros at its end. -/
private theorem fractional_dropTrailing (text : List Char) :
    Numeral.fractional (dropTrailing '0' text) = Numeral.fractional text := by
  obtain ⟨count, split⟩ := eq_dropTrailing_append '0' text
  have value : Nat.ofDigitChars 10 text 0 =
      10 ^ count * Nat.ofDigitChars 10 (dropTrailing '0' text) 0 := by
    rw [← Nat.ofDigitChars_replicate_zero, ← Nat.ofDigitChars_append, ← split]
  have length : text.length = (dropTrailing '0' text).length + count := by
    rw [← List.length_replicate (a := '0') (n := count), ← List.length_append, ← split]
  rw [Numeral.fractional, Numeral.fractional, value, length, pow_add]
  push_cast
  field_simp

private theorem length_padded {width count : Nat} (fractional : 0 < width)
    (fits : count < 10 ^ width) : (padded width count).length = width := by
  have short := (Nat.length_toDigits_le_iff (by decide) fractional).mpr fits
  simp only [padded, List.length_append, List.length_replicate]
  omega

private theorem ofDigitChars_padded (width count : Nat) :
    Nat.ofDigitChars 10 (padded width count) 0 = count := by
  rw [padded, Nat.ofDigitChars_append, Nat.ofDigitChars_replicate_zero, Nat.mul_zero,
    Nat.ofDigitChars_ten_toDigits]

theorem isCanonical_numeral (units : Nat) {places : Nat} (fractional : 0 < places) :
    (numeral units places).IsCanonical places where
  leading := by
    rcases Nat.eq_zero_or_pos (units / Nat.pow 10 places) with zero | positive
    · exact .inl (congrArg (Nat.toDigits 10) zero)
    · exact .inr (head?_toDigits positive)
  trailing := getLast?_dropTrailing _ _
  short := by
    have fits : units % 10 ^ places < 10 ^ places := Nat.mod_lt _ (by positivity)
    calc (dropTrailing '0' (padded places (units % 10 ^ places))).length
        ≤ (padded places (units % 10 ^ places)).length := (List.rdropWhile_prefix _ _).length_le
      _ = places := length_padded fractional fits

theorem value_numeral (units : Nat) {places : Nat} (fractional : 0 < places) :
    (numeral units places).value = units / 10 ^ places := by
  have fits : units % 10 ^ places < 10 ^ places := Nat.mod_lt _ (by positivity)
  have whole : 10 ^ places * (units / 10 ^ places) + units % 10 ^ places = units :=
    Nat.div_add_mod units _
  change (Nat.ofDigitChars 10 (Nat.toDigits 10 (units / 10 ^ places)) 0 +
    Numeral.fractional (dropTrailing '0' (padded places (units % 10 ^ places))) : Rat) = _
  rw [fractional_dropTrailing, Numeral.fractional, length_padded fractional fits,
    ofDigitChars_padded, Nat.ofDigitChars_ten_toDigits]
  rw [eq_div_iff (by positivity), add_mul, div_mul_cancel₀ _ (by positivity), mul_comm]
  exact_mod_cast whole

theorem text_numeral_zero (places : Nat) : (numeral 0 places).text = ['0'] := by
  have zeros : padded places 0 = List.replicate (places - 1 + 1) '0' := by
    rw [List.replicate_succ']
    rfl
  have fraction : dropTrailing '0' (padded places (0 % Nat.pow 10 places)) = [] := by
    rw [Nat.zero_mod, zeros]
    exact List.rdropWhile_eq_nil_iff.mpr fun c member =>
      beq_iff_eq.mpr (List.eq_of_mem_replicate member)
  have whole : Nat.toDigits 10 (0 / Nat.pow 10 places) = ['0'] := by
    rw [Nat.zero_div]
    rfl
  simp only [numeral, Numeral.text, fraction, whole]
  rfl

/-! ### Texts -/

/-- Units of the last place as a decimal without zeros at its end. -/
def written (units : Int) (places : Nat) : String :=
  String.ofList ((numeral units.natAbs places).signedText (decide (units < 0)))

private theorem written_zero (places : Nat) : written 0 places = "0" := by
  change String.ofList (numeral 0 places).text = "0"
  rw [text_numeral_zero]

private theorem written_units (value : Quotient) {places : Nat} (nonzero : value.units places ≠ 0) :
    String.ofList ((numeral (value.scaled places) places).signedText value.negative) =
      written (value.units places) places := by
  have sign : decide (value.units places < 0) = value.negative := by
    rw [Quotient.units] at nonzero ⊢
    cases negative : value.negative with
    | false => simp
    | true =>
      simp only [negative, if_true] at nonzero
      exact decide_eq_true (by simp; omega)
  rw [written, value.natAbs_units, sign]

/-- A number is written with the units it is rounded to. -/
theorem trimmed_eq_written (value : Quotient) {places : Nat} (fractional : 0 < places) :
    trimmed (.finite value) places = written (value.units places) places := by
  rw [trimmed]
  dsimp only
  split
  next zero =>
    rw [← value.natAbs_units, Int.natAbs_eq_zero] at zero
    rw [zero, written_zero]
  next positive =>
    have nonzero : value.units places ≠ 0 := by
      rwa [← value.natAbs_units, Int.natAbs_eq_zero] at positive
    rw [trim_digits _ fractional.ne', ← written_units value nonzero]
    rfl

private theorem dropTrailing_cons {c unwanted : Char} (differs : c ≠ unwanted) (text : List Char) :
    dropTrailing unwanted (c :: text) = c :: dropTrailing unwanted text := by
  have kept : dropTrailing unwanted [c] = [c] := dropTrailing_eq_self (by simpa using differs)
  rw [← List.singleton_append, dropTrailing_append, kept]
  split
  next empty => rw [empty]
  next => rfl

/-- A text with all its places is trimmed to the numeral behind the same sign. -/
private theorem trim_signed (value : Quotient) {places : Nat} (fractional : 0 < places) :
    trim (signed (.finite value) places).toList =
      (numeral (value.scaled places) places).signedText value.negative := by
  have digits := trim_digits (value.scaled places) fractional.ne'
  rw [signed, String.toList_ofList, Numeral.signedText, ← digits]
  split
  · rw [trim, dropTrailing_cons (by decide), dropTrailing_cons (by decide), trim]
  · rfl

/-- The text of a number that is a floating-point number near its decimal. It is zero below a
unit of the last place, and has no zeros, and then no point, at its end. -/
def stepwise (rounded : Quotient) (unit : Rat) (places : Nat) : String :=
  let zero := { negative := false, num := 0, den := 1, den_pos := Nat.one_pos }
  let kept := if |rounded.toRat| < unit then zero else rounded
  let text := trim (signed (.finite kept) places).toList
  if text.isEmpty then "0" else String.ofList text

private theorem stepwise_eq (rounded : Quotient) (unit : Rat) {places : Nat}
    (fractional : 0 < places) :
    stepwise rounded unit places =
      if |rounded.toRat| < unit then "0"
      else
        String.ofList ((numeral (rounded.scaled places) places).signedText rounded.negative) := by
  have text (value : Quotient) :
      (if (trim (signed (.finite value) places).toList).isEmpty then "0"
        else String.ofList (trim (signed (.finite value) places).toList)) =
      String.ofList ((numeral (value.scaled places) places).signedText value.negative) := by
    rw [trim_signed value fractional, if_neg]
    rw [List.isEmpty_iff]
    exact Numeral.signedText_ne_nil _ _
  have zero : ({ negative := false, num := 0, den := 1, den_pos := Nat.one_pos } :
      Quotient).scaled places = 0 := by
    simp [Quotient.scaled, roundHalfEven]
  rw [stepwise, text]
  split
  · rw [zero]
    exact written_zero places
  · rfl

/-- The steps before the text: the decimal and a unit of the last place become floating-point
numbers. -/
structure Steps (units : Int) (places : Nat) (rounded : Quotient) (unit : Rat) : Prop where
  rounded : IsNearestDouble (units / 10 ^ places) rounded.toRat
  unit : IsNearestDouble (1 / 10 ^ places) unit

theorem stepwise_eq_written {value unit : Rat} {rounded : Quotient} {units : Int} {places : Nat}
    (fractional : 0 < places) (visible : places < Css.vanishingPlaces) (double : IsDouble value)
    (rounds : IsNearestInt (value * 10 ^ places) units) (steps : Steps units places rounded unit) :
    stepwise rounded unit places = written units places := by
  rw [stepwise_eq rounded unit fractional]
  by_cases nonzero : units = 0
  case pos =>
    -- Zero is a floating-point number, and below the unit whatever its sign.
    have least := steps.rounded.nearest 0 isDouble_zero
    have zero : rounded.toRat = 0 := by simpa [nonzero] using least
    rw [zero, abs_zero, if_pos (steps.unit.unit_pos visible), nonzero, written_zero]
  case neg =>
    -- The second rounding to a decimal is to the same one, and the unit cuts nothing off.
    have same : rounded.units places = units :=
      (rounded.isNearestInt_units places).unique (steps.rounded.isNearestInt double rounds)
    have large := steps.unit.unit_le_abs steps.rounded fractional nonzero
    rw [if_neg (not_lt.mpr large), written_units rounded (same ▸ nonzero), same]

theorem exists_steps (units : Int) (places : Nat) :
    ∃ rounded unit, Steps units places rounded unit := by
  obtain ⟨double, nearest⟩ := exists_nearestDouble (units / 10 ^ places)
  obtain ⟨unit, smallest⟩ := exists_nearestDouble (1 / 10 ^ places)
  obtain ⟨rounded, rfl⟩ := Quotient.exists_toRat double
  exact ⟨rounded, unit, nearest, smallest⟩

theorem isCanonicalText_written (units : Int) {places : Nat} (fractional : 0 < places) :
    IsCanonicalText (written units places) places (units / 10 ^ places) := by
  refine ⟨_, _, String.toList_ofList, isCanonical_numeral _ fractional, ?_, fun negative => ?_⟩
  · rw [Numeral.signedValue, value_numeral _ fractional, Nat.cast_natAbs, Int.cast_abs]
    simp only [decide_eq_true_eq]
    split
    next negative => rw [abs_of_neg (Int.cast_lt_zero.mpr negative), neg_div, neg_neg]
    next nonneg => rw [abs_of_nonneg (Int.cast_nonneg (not_lt.mp nonneg))]
  · exact div_ne_zero (Int.cast_ne_zero.mpr (of_decide_eq_true negative).ne) (by positivity)

end Fixed

namespace Css

open Fixed

theorem numberTo_eq {α : Type} [Scalar α] (value : α) {places : Nat}
    (visible : places < vanishingPlaces) : numberTo value places = .ok (number value places) := by
  have few : min (places : Int).toNat maxPlaces = places := by
    rw [Int.toNat_natCast]
    exact min_eq_left (visible.le.trans (by decide))
  rw [numberTo, if_neg (by omega), if_neg (by omega), few]

/-- A floating-point number is written as the only canonical decimal of its exact value, which is
rounded to the nearest with so many places, and to the even one of two. The steps that round twice
on the way, to the floating-point number next to the decimal first, lead to the same text. -/
theorem number_is_rounded_once (value : Float) {places : Nat} (fractional : 0 < places)
    (visible : places < vanishingPlaces) :
    numberTo value places = .ok (number value places) ∧ number value places ≠ "-0" ∧
      (Scalar.isFinite value = false → number value places = "0") ∧
      (Scalar.isFinite value = true → ∃ units : Int,
        IsNearestInt ((Scalar.exact value).toRat * 10 ^ places) units ∧
          (∀ text, IsCanonicalText text places (units / 10 ^ places) ↔
            text = number value places) ∧
          (∃ rounded unit, Steps units places rounded unit) ∧
          ∀ rounded unit, Steps units places rounded unit →
            stepwise rounded unit places = number value places) := by
  refine ⟨numberTo_eq value visible, ?_⟩
  have double : IsDouble (Scalar.exact value).toRat := isDouble_ofBits value.toBits
  rw [number, Scalar.isFinite]
  generalize Scalar.exact value = exact at double ⊢
  cases exact with
  | undefined => exact ⟨(by decide : "0" ≠ "-0"), fun _ => rfl, fun finite => by contradiction⟩
  | infinite negative =>
    exact ⟨(by decide : "0" ≠ "-0"), fun _ => rfl, fun finite => by contradiction⟩
  | finite exact =>
    rw [trimmed_eq_written exact fractional]
    have canonical := isCanonicalText_written (exact.units places) fractional
    have only (text : String) : IsCanonicalText text places (exact.units places / 10 ^ places) ↔
        text = written (exact.units places) places :=
      ⟨fun other => other.unique canonical, fun same => same ▸ canonical⟩
    have rounds := exact.isNearestInt_units places
    refine ⟨canonical.ne_negativeZero, fun infinite => by contradiction, fun _ => ?_⟩
    refine ⟨exact.units places, rounds, only, exists_steps _ places, fun rounded unit steps => ?_⟩
    exact stepwise_eq_written fractional visible double rounds steps

/-- Half way between two decimals the even one is written. -/
theorem eighth_is_written_even : (0 < 2 ∧ 2 < vanishingPlaces) ∧
    numberTo (0.125 : Float) 2 = .ok "0.12" ∧ IsCanonicalText "0.12" 2 (12 / 10 ^ 2) ∧
      ∀ rounded unit, Steps 12 2 rounded unit → stepwise rounded unit 2 = "0.12" := by
  have visible : 2 < vanishingPlaces := by decide
  have text : number (0.125 : Float) 2 = "0.12" := by decide +kernel
  have finite : Scalar.isFinite (0.125 : Float) = true := by decide +kernel
  have eighth : (Scalar.exact (0.125 : Float)).toRat * 10 ^ 2 = 25 / 2 := by decide +kernel
  have even : IsNearestInt (25 / 2) 12 := ⟨by norm_num [abs], fun _ => rfl⟩
  obtain ⟨returned, -, -, rounds⟩ := number_is_rounded_once 0.125 (by decide : 0 < 2) visible
  obtain ⟨units, nearest, canonical, -, steps⟩ := rounds finite
  rw [eighth] at nearest
  obtain rfl := nearest.unique even
  rw [text] at returned canonical steps
  exact ⟨⟨by decide, visible⟩, returned, (canonical _).mpr rfl, steps⟩

end Css

end Artboard
