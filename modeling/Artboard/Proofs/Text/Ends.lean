import Artboard.Text.Blank
import Mathlib.Data.List.DropRight

/-!
# The ends of a text

Characters of one kind are dropped at both ends of a text, such as blanks. What is
left begins and ends with other characters, and a text that does so is left as it is.
-/
namespace Artboard.Text

variable {unwanted : Char → Bool} {text : List Char}

/-- The text without the unwanted characters at its ends. -/
def stripped (unwanted : Char → Bool) (text : List Char) : List Char :=
  (text.dropWhile unwanted).rdropWhile unwanted

theorem isInfix_stripped (unwanted : Char → Bool) (text : List Char) :
    stripped unwanted text <:+: text :=
  (List.rdropWhile_prefix unwanted _).isInfix.trans (List.dropWhile_suffix unwanted).isInfix

private theorem head?_dropWhile (text : List Char) :
    ∀ c ∈ (text.dropWhile unwanted).head?, unwanted c = false := by
  intro c first
  have kept := List.head?_dropWhile_not unwanted text
  rw [first] at kept
  exact kept

theorem head?_stripped : ∀ c ∈ (stripped unwanted text).head?, unwanted c = false := by
  intro c first
  obtain ⟨after, whole⟩ := List.rdropWhile_prefix unwanted (text.dropWhile unwanted)
  refine head?_dropWhile text c ?_
  rw [← whole, List.head?_append, ← stripped, Option.mem_def.mp first]
  rfl

theorem getLast?_stripped : ∀ c ∈ (stripped unwanted text).getLast?, unwanted c = false := by
  intro c last
  rw [stripped, List.rdropWhile, List.getLast?_reverse] at last
  exact head?_dropWhile _ c last

theorem stripped_eq_self (first : ∀ c ∈ text.head?, unwanted c = false)
    (last : ∀ c ∈ text.getLast?, unwanted c = false) : stripped unwanted text = text := by
  have left : text.dropWhile unwanted = text := by
    cases text with
    | nil => rfl
    | cons c rest => simp [first c rfl]
  rw [stripped, left, List.rdropWhile_eq_self_iff]
  intro inhabited
  simp [last _ (List.getLast_mem_getLast? inhabited)]

theorem stripped_stripped : stripped unwanted (stripped unwanted text) = stripped unwanted text :=
  stripped_eq_self head?_stripped getLast?_stripped

end Artboard.Text
