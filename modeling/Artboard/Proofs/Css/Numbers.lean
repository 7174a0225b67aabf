import Artboard.Proofs.Css.DeclarationList
import Artboard.Proofs.Scene.Walk

/-!
# Numbers in settled values

However a number is written, its text neither quotes nor ends anything: it is a
word, or the shortest text of a scalar, which may also have a mark of its own.
-/
namespace Artboard

open Css

theorem isWord_natDigits (count : Nat) : IsWord (Nat.toDigits 10 count) :=
  isWord_digits fun _ => Nat.isDigit_of_mem_toDigits (by decide) (by decide)

namespace Fixed

private theorem isWord_digitsText (units places : Nat) : IsWord (digits units places) := by
  rw [digits]
  split
  · exact isWord_natDigits _
  · refine (isWord_natDigits _).append (List.forall_mem_cons.mpr ⟨rfl, ?_⟩)
    exact isWord_digits fun _ => isDigit_of_mem_padded

private theorem isWord_trim {text : List Char} (word : IsWord text) : IsWord (trim text) := by
  have dropped (unwanted : Char) {text : List Char} (word : IsWord text) :
      IsWord (dropTrailing unwanted text) := fun c member => by
    rw [dropTrailing, List.mem_reverse] at member
    exact word c (List.mem_reverse.mp ((List.dropWhile_sublist _).subset member))
  exact dropped _ (dropped _ word)

private theorem isWord_negated (negative : Prop) [Decidable negative] {text : List Char}
    (word : IsWord text) :
    IsWord (String.ofList (if negative then '-' :: text else text)).toList := by
  rw [String.toList_ofList]
  split
  · exact List.forall_mem_cons.mpr ⟨rfl, word⟩
  · exact word

theorem isWord_signed (value : Exact) (places : Nat) : IsWord (signed value places).toList := by
  cases value with
  | undefined => exact (by decide : IsWord "nan".toList)
  | infinite negative =>
    cases negative
    · exact (by decide : IsWord "inf".toList)
    · exact (by decide : IsWord "-inf".toList)
  | finite value => exact isWord_negated _ (isWord_digitsText _ _)

theorem settled_signed (value : Exact) (places : Nat) : Css.Settled (signed value places) :=
  (isWord_signed value places).settled

theorem isWord_compact (value : Quotient) (places : Nat) :
    IsWord (compact value places).toList := by
  refine isWord_negated _ ?_
  split
  · exact isWord_natDigits _
  · exact isWord_trim (isWord_digitsText _ _)

end Fixed

/-! ### Shortest texts -/

/-- The shortest texts of the numbers are settled. -/
class Scalar.SettledTexts (α : Type) [Scalar α] : Prop where
  settled (value : α) : Css.Settled (Scalar.text value)

/-- The characters of a decimal. -/
def isDecimalChar (c : Char) : Bool := isWordChar c || c = '+' || c = '/'

private theorem settled_of_decimal {text : List Char} (decimal : ∀ c ∈ text, isDecimalChar c = true) :
    SettledChars text := by
  refine .of_literal fun c member => ?_
  have known := decimal c member
  simp only [isDecimalChar, Bool.or_eq_true, decide_eq_true_eq] at known
  rcases known with (word | rfl) | rfl
  · exact ⟨isLiteral_of_isWordChar word, by rintro rfl; cases word⟩
  · exact ⟨rfl, by decide⟩
  · exact ⟨rfl, by decide⟩

private theorem isDecimalChar_of_isWord {text : List Char} (word : IsWord text) :
    ∀ c ∈ text, isDecimalChar c = true :=
  fun c member => by simp [isDecimalChar, word c member]

namespace Decimal

private theorem decimal_digits (decimal : Decimal) :
    ∀ c ∈ decimal.digitText, isDecimalChar c = true :=
  isDecimalChar_of_isWord (isWord_natDigits _)

private theorem decimal_exponent (exponent : Int) :
    ∀ c ∈ exponentText exponent, isDecimalChar c = true := by
  rw [exponentText]
  refine List.forall_mem_cons.mpr ⟨by split <;> decide, ?_⟩
  refine isDecimalChar_of_isWord ?_
  split
  · exact List.forall_mem_cons.mpr ⟨rfl, isWord_natDigits _⟩
  · exact isWord_natDigits _

private theorem decimal_zeros (count : Nat) :
    ∀ c ∈ List.replicate count '0', isDecimalChar c = true := by
  intro c member
  rw [(List.mem_replicate.mp member).2]
  rfl

theorem decimal_text (decimal : Decimal) : ∀ c ∈ decimal.text, isDecimalChar c = true := by
  have digits := decimal_digits decimal
  have point : isDecimalChar '.' = true := rfl
  unfold text
  dsimp only
  split
  · split
    · simp only [List.forall_mem_append]
      exact ⟨⟨digits, decimal_zeros _⟩, List.all_eq_true.mp (by decide)⟩
    split
    · rw [List.forall_mem_append, List.forall_mem_cons]
      exact ⟨fun c member => digits c (List.mem_of_mem_take member), point,
        fun c member => digits c (List.mem_of_mem_drop member)⟩
    · rw [List.forall_mem_append, List.forall_mem_cons, List.forall_mem_cons]
      exact ⟨⟨rfl, point, decimal_zeros _⟩, digits⟩
  · split
    · simp
    next digit found =>
      rw [found] at digits
      simp only [List.forall_mem_cons] at digits ⊢
      exact ⟨digits.1, rfl, decimal_exponent _⟩
    next digit rest _ found =>
      rw [found] at digits
      simp only [List.cons_append, List.forall_mem_cons, List.forall_mem_append] at digits ⊢
      exact ⟨digits.1, point, digits.2, rfl, decimal_exponent _⟩

end Decimal

instance : Scalar.SettledTexts Float where
  settled number := by
    change Css.Settled (shortestText number)
    unfold shortestText
    dsimp only
    split
    · decide
    · split <;> decide
    · rw [Settled, String.toList_ofList]
      refine settled_of_decimal ?_
      have digits : ∀ value : Quotient, ∀ c ∈ (if value.num = 0 then ['0', '.', '0']
          else (Binary.ofBits number.toBits).shortest.normalize.text), isDecimalChar c = true := by
        intro value
        split
        · exact List.all_eq_true.mp (by decide)
        · exact Decimal.decimal_text _
      split
      · exact List.forall_mem_cons.mpr ⟨rfl, digits _⟩
      · exact digits _

instance : Scalar.SettledTexts Rat where
  settled value := by
    change Css.Settled (quotientText value)
    have digits (count : Nat) : Css.Settled (String.ofList (Nat.toDigits 10 count)) := by
      rw [Settled, String.toList_ofList]
      exact (isWord_natDigits count).settled
    have sign : Css.Settled (if value.num < 0 then "-" else "") := by split <;> decide
    unfold quotientText
    dsimp only
    split
    · exact sign.append (digits _)
    · exact ((sign.append (digits _)).append (by decide)).append (digits _)

namespace Css

variable {α : Type} [Scalar α]

theorem settled_px (value : α) : Settled (px value) := (isWord_px value).settled

theorem settled_number (value : α) {places : Nat} (fractional : places ≠ 0) :
    Settled (number value places) := (isWord_number value fractional).settled

theorem settled_int (value : Int) : Settled (toString value) := (isWord_int value).settled

theorem settled_plainNumber [Scalar.SettledTexts α] (value : α) : Settled (plainNumber value) := by
  unfold plainNumber
  split
  · split
    · exact settled_int _
    · exact Scalar.SettledTexts.settled value
  · exact Scalar.SettledTexts.settled value

theorem settled_linearMatrix {linear : Linear α} {text : String}
    (written : linearMatrix linear = .ok text) : Settled text := by
  obtain ⟨values, found, written⟩ := Except.bind_eq_ok_iff.mp written
  cases written
  -- The arguments are words, with commas between them inside the parentheses.
  have each : ∀ value ∈ values, Settled value := by
    intro value member
    obtain ⟨number, -, written⟩ := exists_of_mem_right (Except.forall₂_of_mapM found) member
    unfold matrixNumber at written
    split at written
    · cases written; decide
    · split at written <;> cases written
      exact (Fixed.isWord_compact _ _).settled
  have inner : Settled (String.intercalate "," values) :=
    settled_intercalate (by decide) each
  have text : ("matrix(" ++ String.intercalate "," values ++ ")").toList =
      "matrix".toList ++ ('(' :: (String.intercalate "," values).toList ++ [')']) := by
    simp
  rw [Settled, text]
  exact SettledChars.append (by decide) (SettledChars.parens inner)

end Css

end Artboard
