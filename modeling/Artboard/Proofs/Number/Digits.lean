import Artboard.Proofs.Number.Trimmed
import Mathlib.Algebra.Order.Field.Rat
import Mathlib.Tactic.FieldSimp
import Mathlib.Tactic.Linarith
import Mathlib.Tactic.NormNum
import Mathlib.Tactic.Ring

/-!
# Numerals without idle zeros

A numeral denotes a rational number. With no zero in front of other digits of the
whole part and none at the end of the fraction it is the only one of its number, and
so is its text with a sign, as long as zero has none.
-/
namespace Artboard

namespace Numeral

/-! ### Fractions -/

/-- What digits behind the point denote. -/
def fractional (digits : List Char) : Rat :=
  Nat.ofDigitChars 10 digits 0 / 10 ^ digits.length

private theorem toNat_of_isDigit {c : Char} (digit : c.isDigit = true) :
    ∃ count ≤ 9, c.toNat = '0'.toNat + count := by
  have zero : '0'.toNat = 48 := rfl
  have nine : '9'.toNat = 57 := rfl
  rw [Char.isDigit_iff_toNat] at digit
  exact ⟨c.toNat - 48, by omega, by omega⟩

private theorem fractional_cons {c : Char} {count : Nat} (digit : c.toNat = '0'.toNat + count)
    (rest : List Char) : fractional (c :: rest) = (count + fractional rest) / 10 := by
  rw [fractional, fractional, Nat.ofDigitChars_cons, Nat.ofDigitChars_eq_ofDigitChars_zero, digit,
    Nat.add_sub_cancel_left, List.length_cons, pow_succ]
  push_cast
  field_simp
  ring

private theorem fractional_bounds {digits : List Char} (all : ∀ c ∈ digits, c.isDigit = true) :
    0 ≤ fractional digits ∧ fractional digits < 1 := by
  induction digits with
  | nil => simp [fractional, Nat.ofDigitChars]
  | cons c rest ih =>
    obtain ⟨here, later⟩ := List.forall_mem_cons.mp all
    obtain ⟨count, few, digit⟩ := toNat_of_isDigit here
    obtain ⟨nonneg, small⟩ := ih later
    have few : (count : Rat) ≤ 9 := by exact_mod_cast few
    rw [fractional_cons digit]
    constructor
    · exact div_nonneg (add_nonneg (Nat.cast_nonneg count) nonneg) (by norm_num)
    · linarith

/-- Natural numbers with fractions below one are told apart. -/
private theorem eq_of_add_eq_add {whole whole' : Nat} {rest rest' : Rat} (nonneg : 0 ≤ rest)
    (small : rest < 1) (nonneg' : 0 ≤ rest') (small' : rest' < 1)
    (same : (whole : Rat) + rest = whole' + rest') : whole = whole' ∧ rest = rest' := by
  have less : (whole : Rat) < whole' + 1 := by linarith
  have less' : (whole' : Rat) < whole + 1 := by linarith
  have equal : whole = whole' := by
    have := Nat.lt_succ_iff.mp (by exact_mod_cast less)
    have := Nat.lt_succ_iff.mp (by exact_mod_cast less')
    omega
  subst equal
  exact ⟨rfl, add_left_cancel same⟩

/-- A fraction without a zero at its end is not zero. -/
private theorem fractional_pos {digits : List Char} (all : ∀ c ∈ digits, c.isDigit = true)
    (inhabited : digits ≠ []) (last : digits.getLast? ≠ some '0') : 0 < fractional digits := by
  induction digits with
  | nil => exact absurd rfl inhabited
  | cons c rest ih =>
    obtain ⟨here, later⟩ := List.forall_mem_cons.mp all
    obtain ⟨count, -, digit⟩ := toNat_of_isDigit here
    rw [fractional_cons digit]
    refine div_pos ?_ (by norm_num)
    cases rest with
    | nil =>
      have nonzero : count ≠ 0 := by
        rintro rfl
        exact last (congrArg some (Char.toNat_inj.mp digit))
      have positive : (0 : Rat) < count := by exact_mod_cast Nat.pos_of_ne_zero nonzero
      exact add_pos_of_pos_of_nonneg positive (fractional_bounds later).1
    | cons next rest =>
      exact add_pos_of_nonneg_of_pos (Nat.cast_nonneg count) (ih later (List.cons_ne_nil _ _) last)

private theorem fractional_inj {digits digits' : List Char}
    (all : ∀ c ∈ digits, c.isDigit = true) (last : digits.getLast? ≠ some '0')
    (all' : ∀ c ∈ digits', c.isDigit = true) (last' : digits'.getLast? ≠ some '0')
    (same : fractional digits = fractional digits') : digits = digits' := by
  -- Digit by digit; what is left over is positive, since it does not end in a zero.
  induction digits generalizing digits' with
  | nil =>
    by_contra differ
    have positive := fractional_pos all' (Ne.symm differ) last'
    rw [← same] at positive
    simp [fractional, Nat.ofDigitChars] at positive
  | cons c rest ih =>
    cases digits' with
    | nil =>
      have positive := fractional_pos all (List.cons_ne_nil _ _) last
      rw [same] at positive
      simp [fractional, Nat.ofDigitChars] at positive
    | cons c' rest' =>
      obtain ⟨here, later⟩ := List.forall_mem_cons.mp all
      obtain ⟨here', later'⟩ := List.forall_mem_cons.mp all'
      obtain ⟨count, -, digit⟩ := toNat_of_isDigit here
      obtain ⟨count', -, digit'⟩ := toNat_of_isDigit here'
      rw [fractional_cons digit, fractional_cons digit'] at same
      -- Ten times the fraction is the first digit and the fraction of the others.
      obtain ⟨nonneg, small⟩ := fractional_bounds later
      obtain ⟨nonneg', small'⟩ := fractional_bounds later'
      obtain ⟨rfl, rest_eq⟩ := eq_of_add_eq_add nonneg small nonneg' small'
        ((div_left_inj' (by norm_num)).mp same)
      have shorter {c : Char} {rest : List Char} (last : (c :: rest).getLast? ≠ some '0') :
          rest.getLast? ≠ some '0' := by
        cases rest with
        | nil => simp
        | cons next rest => exact last
      rw [Char.toNat_inj.mp (digit.trans digit'.symm),
        ih later (shorter last) later' (shorter last') rest_eq]

/-! ### Whole parts -/

private theorem toDigits_digit {c : Char} {count : Nat} (few : count ≤ 9)
    (digit : c.toNat = '0'.toNat + count) : Nat.toDigits 10 count = [c] := by
  have same : count.digitChar = c := by
    rw [← Char.toNat_inj, Nat.toNat_digitChar_of_lt_ten (Nat.lt_succ_of_le few), digit]
    rfl
  rw [Nat.toDigits_of_lt_base (Nat.lt_succ_of_le few), same]

/-- Digits behind a positive number are those of the number that they extend it to. -/
private theorem toDigits_append {digits : List Char} (all : ∀ c ∈ digits, c.isDigit = true)
    {front : Nat} (positive : 0 < front) :
    Nat.toDigits 10 front ++ digits = Nat.toDigits 10 (Nat.ofDigitChars 10 digits front) := by
  induction digits generalizing front with
  | nil => simp [Nat.ofDigitChars]
  | cons c rest ih =>
    obtain ⟨here, later⟩ := List.forall_mem_cons.mp all
    obtain ⟨count, few, digit⟩ := toNat_of_isDigit here
    have one : Nat.toDigits 10 front ++ [c] = Nat.toDigits 10 (10 * front + count) := by
      rw [← toDigits_digit few digit,
        Nat.toDigits_append_toDigits (by decide) positive (Nat.lt_succ_of_le few)]
    rw [Nat.ofDigitChars_cons, digit, Nat.add_sub_cancel_left, ← ih later (by omega), ← one,
      List.append_assoc, List.singleton_append]

/-- A whole number is written with the digits of its value. -/
private theorem toDigits_ofDigitChars {digits : List Char} (all : ∀ c ∈ digits, c.isDigit = true)
    (inhabited : digits ≠ []) (leading : digits = ['0'] ∨ digits.head? ≠ some '0') :
    Nat.toDigits 10 (Nat.ofDigitChars 10 digits 0) = digits := by
  rcases leading with rfl | leading
  · rfl
  · cases digits with
    | nil => exact absurd rfl inhabited
    | cons c rest =>
      obtain ⟨here, later⟩ := List.forall_mem_cons.mp all
      obtain ⟨count, few, digit⟩ := toNat_of_isDigit here
      have positive : 0 < count := by
        rw [Nat.pos_iff_ne_zero]
        rintro rfl
        exact leading (congrArg some (Char.toNat_inj.mp digit))
      rw [Nat.ofDigitChars_cons, digit, Nat.add_sub_cancel_left, Nat.mul_zero, Nat.zero_add,
        ← toDigits_append later positive, toDigits_digit few digit, List.singleton_append]

/-! ### Numerals -/

/-- What the digits denote. -/
def value (numeral : Numeral) : Rat :=
  Nat.ofDigitChars 10 numeral.whole 0 + fractional numeral.fraction

theorem value_nonneg (numeral : Numeral) : 0 ≤ numeral.value :=
  add_nonneg (Nat.cast_nonneg _) (fractional_bounds numeral.fraction_digits).1

/-- A numeral with no zero to leave out, and with at most this many digits after the point. -/
structure IsCanonical (numeral : Numeral) (places : Nat) : Prop where
  leading : numeral.whole = ['0'] ∨ numeral.whole.head? ≠ some '0'
  trailing : numeral.fraction.getLast? ≠ some '0'
  short : numeral.fraction.length ≤ places

/-- The value says which numeral it is. -/
theorem IsCanonical.unique {first second : Numeral} {places places' : Nat}
    (one : first.IsCanonical places) (other : second.IsCanonical places')
    (same : first.value = second.value) : first.text = second.text := by
  obtain ⟨nonneg, small⟩ := fractional_bounds first.fraction_digits
  obtain ⟨nonneg', small'⟩ := fractional_bounds second.fraction_digits
  obtain ⟨whole, fraction⟩ := eq_of_add_eq_add nonneg small nonneg' small' same
  rw [text, text, fractional_inj first.fraction_digits one.trailing second.fraction_digits
      other.trailing fraction,
    ← toDigits_ofDigitChars first.whole_digits first.inhabited one.leading, whole,
    toDigits_ofDigitChars second.whole_digits second.inhabited other.leading]

/-- The text with a sign in front. -/
def signedText (numeral : Numeral) (negative : Bool) : List Char :=
  if negative then '-' :: numeral.text else numeral.text

theorem signedText_ne_nil (numeral : Numeral) (negative : Bool) :
    numeral.signedText negative ≠ [] := by
  rw [signedText]
  split
  · exact List.cons_ne_nil _ _
  · exact List.append_ne_nil_of_left_ne_nil numeral.inhabited _

/-- What the digits denote after a sign. -/
def signedValue (numeral : Numeral) (negative : Bool) : Rat :=
  if negative then -numeral.value else numeral.value

end Numeral

/-! ### Texts -/

/-- The text is a decimal of the value: digits without a zero in front of others or at the end of
a fraction, at most so many of them after the point, and a sign unless the value is zero. -/
def IsCanonicalText (text : String) (places : Nat) (value : Rat) : Prop :=
  ∃ (numeral : Numeral) (negative : Bool), text.toList = numeral.signedText negative ∧
    numeral.IsCanonical places ∧ numeral.signedValue negative = value ∧
    (negative = true → value ≠ 0)

namespace IsCanonicalText

variable {first second : String} {places places' : Nat} {value : Rat}

/-- The sign is the one of the value. -/
private theorem negative_iff {numeral : Numeral} {negative : Bool}
    (denotes : numeral.signedValue negative = value) (nonzero : negative = true → value ≠ 0) :
    negative = decide (value < 0) := by
  have nonneg := numeral.value_nonneg
  cases negative with
  | false => exact (decide_eq_false (by rw [← denotes]; exact not_lt.mpr nonneg)).symm
  | true =>
    have below : value ≤ 0 := by rw [← denotes]; exact neg_nonpos.mpr nonneg
    exact (decide_eq_true (lt_of_le_of_ne below (nonzero rfl))).symm

/-- A value has no other text. -/
theorem unique (one : IsCanonicalText first places value)
    (other : IsCanonicalText second places' value) : first = second := by
  obtain ⟨numeral, negative, written, canonical, denotes, nonzero⟩ := one
  obtain ⟨numeral', negative', written', canonical', denotes', nonzero'⟩ := other
  obtain rfl : negative' = negative :=
    (negative_iff denotes' nonzero').trans (negative_iff denotes nonzero).symm
  have same : numeral.value = numeral'.value := by
    rw [← denotes', Numeral.signedValue, Numeral.signedValue] at denotes
    split at denotes
    · exact neg_injective denotes
    · exact denotes
  apply String.toList_injective
  rw [written, written', Numeral.signedText, Numeral.signedText, canonical.unique canonical' same]

/-- Zero has no sign. -/
theorem ne_negativeZero (canonical : IsCanonicalText first places value) : first ≠ "-0" := by
  rintro rfl
  obtain ⟨numeral, negative, same, -, denotes, nonzero⟩ := canonical
  obtain ⟨head, rest, whole⟩ := List.exists_cons_of_ne_nil numeral.inhabited
  change ['-', '0'] = _ at same
  cases negative with
  | false =>
    have digit := numeral.whole_digits head (whole ▸ .head _)
    rw [Numeral.signedText, Numeral.text, whole] at same
    obtain ⟨rfl, -⟩ := List.cons.inj same
    contradiction
  | true =>
    -- The only digit is zero, so the value is.
    rw [Numeral.signedText, Numeral.text, whole] at same
    obtain ⟨-, digits⟩ := List.cons.inj same
    obtain ⟨rfl, tail⟩ := List.cons.inj digits
    obtain ⟨rfl, point⟩ := List.append_eq_nil_iff.mp tail.symm
    have fraction : numeral.fraction = [] := by
      by_contra some
      rw [if_neg (by simpa using some)] at point
      contradiction
    refine nonzero rfl ?_
    rw [← denotes, Numeral.signedValue, Numeral.value, whole, fraction]
    simp [Numeral.fractional, Nat.ofDigitChars]

end IsCanonicalText

end Artboard
