import Artboard.Css.Length

/-!
# Numbers as they are written

A number with a fixed count of places is written as a numeral, digits with an
optional fraction, and a sign in front of it where it is negative.
-/
namespace Artboard

/-- Digits, and a fraction of digits after a point. -/
structure Numeral where
  whole : List Char
  fraction : List Char
  inhabited : whole ≠ []
  whole_digits : ∀ c ∈ whole, c.isDigit = true
  fraction_digits : ∀ c ∈ fraction, c.isDigit = true

namespace Numeral

def text (numeral : Numeral) : List Char :=
  numeral.whole ++ if numeral.fraction.isEmpty then [] else '.' :: numeral.fraction

end Numeral

namespace Fixed

theorem dropTrailing_append (unwanted : Char) (front back : List Char) :
    dropTrailing unwanted (front ++ back) =
      if dropTrailing unwanted back = [] then dropTrailing unwanted front
      else front ++ dropTrailing unwanted back := by
  simp only [dropTrailing, List.reverse_append, List.dropWhile_append, List.reverse_eq_nil_iff,
    List.isEmpty_iff]
  split <;> simp

theorem dropTrailing_eq_self {unwanted : Char} {text : List Char}
    (wanted : ∀ c ∈ text, c ≠ unwanted) : dropTrailing unwanted text = text := by
  have kept : text.reverse.dropWhile (· == unwanted) = text.reverse := by
    cases ended : text.reverse with
    | nil => rfl
    | cons last rest =>
      have differs := wanted last (by rw [← List.mem_reverse, ended]; exact .head _)
      simp [differs]
  rw [dropTrailing, kept, List.reverse_reverse]

private theorem mem_of_mem_dropTrailing {unwanted c : Char} {text : List Char}
    (member : c ∈ dropTrailing unwanted text) : c ∈ text := by
  rw [dropTrailing, List.mem_reverse] at member
  exact List.mem_reverse.mp ((List.dropWhile_sublist _).subset member)

theorem isDigit_of_mem_padded {width count : Nat} {c : Char}
    (member : c ∈ padded width count) : c.isDigit = true := by
  rcases List.mem_append.mp member with zero | digit
  · rw [(List.mem_replicate.mp zero).2]
    rfl
  · exact Nat.isDigit_of_mem_toDigits (by decide) (by decide) digit

private theorem ne_point_of_isDigit {c : Char} (digit : c.isDigit = true) : c ≠ '.' := by
  rintro rfl
  contradiction

private theorem trim_point {whole back : List Char} (whole_digits : ∀ c ∈ whole, c.isDigit = true)
    (fraction_digits : ∀ c ∈ dropTrailing '0' back, c.isDigit = true) :
    trim (whole ++ '.' :: back) =
      whole ++ if (dropTrailing '0' back).isEmpty then [] else '.' :: dropTrailing '0' back := by
  have point : dropTrailing '0' ['.'] = ['.'] := rfl
  have pointless : dropTrailing '.' ['.'] = [] := rfl
  rw [trim, ← List.singleton_append, dropTrailing_append '0', dropTrailing_append '0', point]
  split
  next blank =>
    -- Without a fraction the zeros stop at the point, which is dropped next.
    have whole := dropTrailing_eq_self fun c member => ne_point_of_isDigit (whole_digits c member)
    simp [blank, dropTrailing_append '.', pointless, whole]
  next kept =>
    have fraction :=
      dropTrailing_eq_self fun c member => ne_point_of_isDigit (fraction_digits c member)
    -- A fraction that is left ends with a digit, so the point stays.
    have last : dropTrailing '.' ('.' :: dropTrailing '0' back) = '.' :: dropTrailing '0' back := by
      rw [← List.singleton_append, dropTrailing_append, fraction, if_neg kept]
    simp [kept, dropTrailing_append '.', last]

/-- The numeral of a magnitude in units of the last place. -/
def numeral (units places : Nat) : Numeral where
  whole := Nat.toDigits 10 (units / Nat.pow 10 places)
  fraction := dropTrailing '0' (padded places (units % Nat.pow 10 places))
  inhabited := Nat.toDigits_ne_nil
  whole_digits _ := Nat.isDigit_of_mem_toDigits (by decide) (by decide)
  fraction_digits _ member := isDigit_of_mem_padded (mem_of_mem_dropTrailing member)

/-- A magnitude with places is trimmed to its numeral. -/
theorem trim_digits (units : Nat) {places : Nat} (fractional : places ≠ 0) :
    trim (digits units places) = (numeral units places).text := by
  rw [digits, if_neg fractional]
  exact trim_point (numeral units places).whole_digits (numeral units places).fraction_digits

end Fixed

/-- A number is written as a numeral with or without a sign. -/
theorem Css.number_cases {α : Type} [Scalar α] (value : α) {places : Nat}
    (fractional : places ≠ 0) :
    ∃ numeral : Numeral, Css.number value places = String.ofList numeral.text ∨
      Css.number value places = String.ofList ('-' :: numeral.text) := by
  have zero : ∃ numeral : Numeral, "0" = String.ofList numeral.text ∨
      "0" = String.ofList ('-' :: numeral.text) :=
    ⟨⟨['0'], [], by simp, by simp, by simp⟩, .inl rfl⟩
  rw [Css.number]
  cases Scalar.exact value with
  | undefined => exact zero
  | infinite => exact zero
  | finite value =>
    rw [Fixed.trimmed]
    dsimp only
    split
    · exact zero
    · rw [Fixed.trim_digits _ fractional]
      split
      · exact ⟨_, .inr rfl⟩
      · exact ⟨_, .inl rfl⟩

end Artboard
