import Artboard.Css.ValueList

/-!
# Quotes and parentheses

A list is split where its separator stands outside quotes and parentheses. What was
read of a text says how deep in parentheses the next character stands and in which
quote. A splitter goes by nothing else.
-/
namespace Artboard.Css

open Text

variable {separator c : Char} {text rest space : List Char}

/-! ### Literal characters -/

/-- The character neither quotes nor stands for a parenthesis. -/
def isLiteral (c : Char) : Bool := !(['"', '\'', '(', ')'].contains c)

theorem isLiteral_iff : isLiteral c = true ↔ c ≠ '"' ∧ c ≠ '\'' ∧ c ≠ '(' ∧ c ≠ ')' := by
  simp [isLiteral]

theorem isLiteral_of_isBlank (blank : isBlank c = true) : isLiteral c = true := by
  refine isLiteral_iff.mpr ⟨?_, ?_, ?_, ?_⟩
  all_goals
    rintro rfl
    cases blank

theorem isLiteral_of_isSeparator (ends : isLiteral separator = true)
    (separates : SplitState.isSeparator separator c = true) : isLiteral c = true := by
  simp only [SplitState.isSeparator, Bool.or_eq_true, Bool.and_eq_true, decide_eq_true_eq]
    at separates
  rcases separates with rfl | ⟨-, blank⟩
  · exact ends
  · exact isLiteral_of_isBlank blank

/-! ### Nesting -/

/-- How deep in parentheses a text stands, and in which quote. -/
structure Nesting where
  depth : Nat
  quote : Option Char
deriving DecidableEq

namespace Nesting

def outside : Nesting := ⟨0, none⟩

/-- Behind the next character. A closing parenthesis too many is ignored. -/
def next (nesting : Nesting) (c : Char) : Nesting :=
  match nesting.quote with
  | some quote => { nesting with quote := if c = quote then none else some quote }
  | none =>
    if c = '"' ∨ c = '\'' then { nesting with quote := some c }
    else if c = '(' then { nesting with depth := nesting.depth + 1 }
    else if c = ')' then { nesting with depth := nesting.depth - 1 }
    else nesting

end Nesting

open Nesting

/-- How deep a text stands whose beginning was read. -/
def nestingAfter (text : List Char) : Nesting := text.foldl next outside

theorem nestingAfter_append (text rest : List Char) :
    nestingAfter (text ++ rest) = rest.foldl next (nestingAfter text) :=
  List.foldl_append

/-- Only the two quotes are ever open. -/
def Nesting.Marked (nesting : Nesting) : Prop :=
  ∀ quote ∈ nesting.quote, quote = '"' ∨ quote = '\''

theorem Nesting.marked_outside : outside.Marked := by
  simp [Marked, outside]

theorem Nesting.Marked.next {nesting : Nesting} (marked : nesting.Marked) (c : Char) :
    (nesting.next c).Marked := by
  obtain ⟨depth, quote⟩ := nesting
  rw [Nesting.next]
  cases quote with
  | some quote =>
    intro open_
    dsimp only
    split
    · simp
    · rintro ⟨⟩
      exact marked _ rfl
  | none =>
    dsimp only
    split
    next quotes => simpa [Marked] using quotes
    split
    · simp [Marked]
    split <;> simp [Marked]

theorem marked_foldl (text : List Char) {nesting : Nesting} (marked : nesting.Marked) :
    (text.foldl next nesting).Marked := by
  induction text generalizing nesting with
  | nil => exact marked
  | cons c rest ih => exact ih (marked.next c)

theorem marked_nestingAfter (text : List Char) : (nestingAfter text).Marked :=
  marked_foldl text marked_outside

theorem next_literal (literal : isLiteral c = true) (depth : Nat) :
    (⟨depth, none⟩ : Nesting).next c = ⟨depth, none⟩ := by
  obtain ⟨double, single, opening, closing⟩ := isLiteral_iff.mp literal
  simp [next, double, single, opening, closing]

theorem foldl_next_literal (literal : ∀ c ∈ text, isLiteral c = true) (depth : Nat) :
    text.foldl next ⟨depth, none⟩ = ⟨depth, none⟩ := by
  induction text with
  | nil => rfl
  | cons c rest ih =>
    obtain ⟨here, later⟩ := List.forall_mem_cons.mp literal
    rw [List.foldl_cons, next_literal here]
    exact ih later

/-- A blank neither opens nor closes anything. -/
theorem next_isBlank {nesting : Nesting} (marked : nesting.Marked) (blank : isBlank c = true) :
    nesting.next c = nesting := by
  have literal := isLiteral_of_isBlank blank
  obtain ⟨depth, quote⟩ := nesting
  cases quote with
  | none => exact next_literal literal depth
  | some quote =>
    have differs : c ≠ quote := by
      rintro rfl
      obtain ⟨double, single, -⟩ := isLiteral_iff.mp literal
      exact (marked c rfl).elim double single
    simp [next, differs]

theorem foldl_next_blank {nesting : Nesting} (marked : nesting.Marked)
    (blank : allBlank space = true) : space.foldl next nesting = nesting := by
  induction space with
  | nil => rfl
  | cons c rest ih =>
    obtain ⟨here, later⟩ := List.forall_mem_cons.mp (List.all_eq_true.mp blank)
    rw [List.foldl_cons, next_isBlank marked here]
    exact ih (List.all_eq_true.mpr later)

/-! ### Held separators -/

/-- From the nesting on, every separator stands inside a quote or a parenthesis. -/
def Nesting.Holds (separator : Char) (nesting : Nesting) (text : List Char) : Prop :=
  ∀ before c rest, text = before ++ c :: rest → SplitState.isSeparator separator c = true →
    before.foldl next nesting ≠ outside

namespace Nesting.Holds

variable {nesting : Nesting}

theorem nil : nesting.Holds separator [] := by
  intro before c rest split
  simp at split

theorem cons_iff : nesting.Holds separator (c :: rest) ↔
    ¬ (nesting = outside ∧ SplitState.isSeparator separator c = true) ∧
      (nesting.next c).Holds separator rest := by
  constructor
  · intro holds
    refine ⟨fun stops => holds [] c rest rfl stops.2 stops.1, fun before d after split => ?_⟩
    exact holds (c :: before) d after (by rw [split, List.cons_append])
  · rintro ⟨here, later⟩ before d after split separates
    cases before with
    | nil =>
      cases split
      exact fun top => here ⟨top, separates⟩
    | cons first more =>
      cases split
      exact later more d after rfl separates

theorem append_iff : nesting.Holds separator (text ++ rest) ↔
    nesting.Holds separator text ∧ (text.foldl next nesting).Holds separator rest := by
  induction text generalizing nesting with
  | nil => simp [nil]
  | cons c text ih => rw [List.cons_append, cons_iff, cons_iff, ih, and_assoc, List.foldl_cons]

end Nesting.Holds

instance decidableHolds (separator : Char) :
    (nesting : Nesting) → (text : List Char) → Decidable (nesting.Holds separator text)
  | _, [] => isTrue .nil
  | nesting, c :: rest =>
    have := decidableHolds separator (nesting.next c) rest
    decidable_of_iff _ Nesting.Holds.cons_iff.symm

/-! ### One step of splitting -/

/-- Splitting has got to this nesting, with the characters of the open part last first. -/
def SplitState.at (nesting : Nesting) (current : List Char) : SplitState :=
  ⟨nesting.depth, nesting.quote, current⟩

theorem step_at (ends : isLiteral separator = true) (nesting : Nesting) (current : List Char) :
    (SplitState.at nesting current).step separator c =
      if nesting = outside ∧ SplitState.isSeparator separator c = true then none
      else some (.at (nesting.next c) (c :: current)) := by
  obtain ⟨depth, quote⟩ := nesting
  cases quote with
  | some quote => simp [SplitState.step, SplitState.at, next, outside]
  | none =>
    by_cases separates : SplitState.isSeparator separator c = true
    · -- A separator neither quotes nor stands for a parenthesis.
      obtain ⟨double, single, opening, closing⟩ :=
        isLiteral_iff.mp (isLiteral_of_isSeparator ends separates)
      simp [SplitState.step, SplitState.at, next, outside, separates, double, single, opening,
        closing]
    · simp only [SplitState.step, SplitState.at, next, separates]
      split
      · simp
      split
      · simp
      split <;> simp

theorem splitFrom_cons (ends : isLiteral separator = true) (nesting : Nesting)
    (current : List Char) :
    splitFrom separator (.at nesting current) (c :: rest) =
      if nesting = outside ∧ SplitState.isSeparator separator c = true then
        (SplitState.at nesting current).part?.toList ++ splitTopLevel separator rest
      else splitFrom separator (.at (nesting.next c) (c :: current)) rest := by
  rw [splitFrom, step_at ends]
  by_cases stops : nesting = outside ∧ SplitState.isSeparator separator c = true
  · rw [if_pos stops, if_pos stops]
    rfl
  · rw [if_neg stops, if_neg stops]

theorem part_at (nesting : Nesting) (current : List Char) :
    (SplitState.at nesting current).part? =
      if trim current.reverse = [] then none else some (trim current.reverse) := by
  simp [SplitState.part?, SplitState.at, List.isEmpty_iff]

end Artboard.Css
