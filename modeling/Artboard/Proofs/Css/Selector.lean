import Artboard.Proofs.Markup.Reading
import Artboard.Stroke.Css

/-!
# Reading a quoted selector

The value in the selector of a stroke is read as a string of a stylesheet: a quote
ends it, a line break spoils it, and a backslash starts an escape. It is read as
the id that it was written from exactly where the id has none of these.
-/
namespace Artboard.Css

/-- A stylesheet as it is read: each line break is a line feed, and no character is null. -/
def preprocessed (text : List Char) : List Char :=
  (Markup.lineFeeds text).map fun c =>
    if c = '\x0c' then '\n' else if c = '\x00' then '\uFFFD' else c

/-- Where a string is read: in its text, behind a backslash, or among the digits of an escape, of
which the last comes first. -/
inductive StringState where
  | text
  | escape
  | digits (read : List Char)

/-- What a character of a string leads to; `read` is the text before it, last character first. -/
inductive StringStep where
  | ends (read : List Char)
  | spoilt
  | goes (state : StringState) (read : List Char)

/-- The character that an escape stands for by its number. -/
def escapedChar (digits : List Char) : Char :=
  let code := Text.numberInBase 16 digits.reverse
  if code = 0 ∨ ¬ code.isValidChar then '\uFFFD' else Char.ofNat code

namespace StringStep

def ofText (read : List Char) (c : Char) : StringStep :=
  if c = '"' then .ends read
  else if c = '\n' then .spoilt
  else if c = '\\' then .goes .escape read
  else .goes .text (c :: read)

def next (state : StringState) (read : List Char) (c : Char) : StringStep :=
  match state with
  | .text => ofText read c
  | .escape =>
    if c = '\n' then .goes .text read
    else if Text.isHexDigit c then .goes (.digits [c]) read
    else .goes .text (c :: read)
  | .digits digits =>
    if Text.isHexDigit c ∧ digits.length < 6 then .goes (.digits (c :: digits)) read
    else if Markup.isGap c then .goes .text (escapedChar digits :: read)
    else ofText (escapedChar digits :: read) c

end StringStep

open StringStep

/-- The text of a string that is closed by a quote, and what is behind it. -/
def stringFrom (state : StringState) (read : List Char) :
    List Char → Option (List Char × List Char)
  | [] => none
  | c :: rest =>
    match next state read c with
    | .ends read => some (read.reverse, rest)
    | .spoilt => none
    | .goes state read => stringFrom state read rest

/-- The id that the selector of a stroke asks for, if it is read as one. -/
def selectedId? (selector : String) : Option String := do
  let rest ← Markup.after? "[data-layer-id=\"" (preprocessed selector.toList)
  let (value, rest) ← stringFrom .text [] rest
  if rest = "]::before".toList then some (String.ofList value) else none

/-! ### Strings that stand for themselves -/

/-- In a string that has been preprocessed the character stands for itself. -/
private def isLiteralInString (c : Char) : Bool := c != '"' && c != '\n' && c != '\\'

private theorem stringFrom_literal {text read rest : List Char}
    (literal : ∀ c ∈ text, isLiteralInString c = true) :
    stringFrom .text read (text ++ '"' :: rest) = some (read.reverse ++ text, rest) := by
  induction text generalizing read with
  | nil => simp [stringFrom, next, ofText]
  | cons c text ih =>
    obtain ⟨here, literal⟩ := List.forall_mem_cons.mp literal
    simp only [isLiteralInString, Bool.and_eq_true, bne_iff_ne, ne_eq] at here
    obtain ⟨⟨quote, breaks⟩, escapes⟩ := here
    rw [List.cons_append, stringFrom]
    simp only [next, ofText, quote, breaks, escapes, if_false]
    rw [ih literal]
    simp

/-! ### Only these stand for themselves -/

/-- How many characters of the text an escape still stands for. -/
private def StringState.pending : StringState → Nat
  | .digits _ => 1
  | _ => 0

/-- The step adds at most one character to a text of a length. -/
private def StringStep.Adds (step : StringStep) (length : Nat) : Prop :=
  match step with
  | .ends read => read.length ≤ length
  | .spoilt => True
  | .goes state read => read.length + state.pending ≤ length + 1

private theorem adds_ofText (read : List Char) (c : Char) : (ofText read c).Adds read.length := by
  unfold ofText
  split
  · exact Nat.le_refl _
  split
  · trivial
  split
  · exact Nat.le_succ _
  · exact Nat.le_refl _

private theorem adds_next (state : StringState) (read : List Char) (c : Char) :
    (next state read c).Adds (read.length + state.pending) := by
  cases state with
  | text => exact adds_ofText read c
  | escape =>
    rw [next]
    split
    · exact Nat.le_succ _
    split
    · exact Nat.le_refl _
    · exact Nat.le_refl _
  | digits digits =>
    rw [next]
    split
    · exact Nat.le_succ _
    split
    · exact Nat.le_succ _
    · exact adds_ofText (escapedChar digits :: read) c

private theorem length_stringFrom {state : StringState} {read input text rest : List Char}
    (found : stringFrom state read input = some (text, rest)) :
    text.length + rest.length + 1 ≤ input.length + read.length + state.pending := by
  induction input generalizing state read with
  | nil => cases found
  | cons c input ih =>
    have adds := adds_next state read c
    rw [stringFrom] at found
    cases step : next state read c with
    | ends after =>
      rw [step] at found adds
      cases found
      simp only [StringStep.Adds] at adds
      simp only [List.length_reverse, List.length_cons]
      omega
    | spoilt =>
      rw [step] at found
      cases found
    | goes state after =>
      rw [step] at found adds
      have later := ih found
      simp only [StringStep.Adds] at adds
      simp only [List.length_cons]
      omega

/-- A text that is read without loss has no quote, no line break and no backslash. -/
private theorem literal_of_stringFrom {input read text rest : List Char}
    (found : stringFrom .text read (input ++ '"' :: rest) = some (text, rest))
    (long : read.length + input.length ≤ text.length) :
    (∀ c ∈ input, isLiteralInString c = true) ∧ text = read.reverse ++ input := by
  induction input generalizing read with
  | nil =>
    simp only [List.nil_append, stringFrom, next, ofText, if_true, Option.some.injEq,
      Prod.mk.injEq] at found
    simp [found.1]
  | cons c input ih =>
    rw [List.cons_append, stringFrom] at found
    simp only [next, ofText] at found
    simp only [List.length_cons] at long
    by_cases quote : c = '"'
    · rw [if_pos quote] at found
      obtain rfl : read.reverse = text := congrArg Prod.fst (Option.some.inj found)
      simp only [List.length_reverse] at long
      omega
    by_cases breaks : c = '\n'
    · rw [if_neg quote, if_pos breaks] at found
      cases found
    by_cases escapes : c = '\\'
    -- The backslash itself is lost.
    · rw [if_neg quote, if_neg breaks, if_pos escapes] at found
      have short := length_stringFrom found
      simp only [List.length_append, List.length_cons, StringState.pending] at short
      omega
    · rw [if_neg quote, if_neg breaks, if_neg escapes] at found
      obtain ⟨literal, rfl⟩ := ih found (by rw [List.length_cons]; omega)
      refine ⟨List.forall_mem_cons.mpr ⟨?_, literal⟩, by simp⟩
      simp [isLiteralInString, quote, breaks, escapes]

/-! ### Selectors of strokes -/

/-- The character stands for itself between quotes in a stylesheet. -/
def isStringChar (c : Char) : Bool := !(['"', '\\', '\n', '\r', '\x0c', '\x00'].contains c)

theorem toList_pseudoSelector (id : String) :
    (pseudoSelector id).toList =
      "[data-layer-id=\"".toList ++ (id.toList ++ "\"]::before".toList) := by
  change ("[data-layer-id=\"" ++ id ++ "\"]::before").toList = _
  rw [String.toList_append, String.toList_append, List.append_assoc]

theorem pseudoSelector_inj {first second : String} :
    pseudoSelector first = pseudoSelector second ↔ first = second := by
  refine ⟨fun same => ?_, congrArg _⟩
  have texts := congrArg String.toList same
  rw [toList_pseudoSelector, toList_pseudoSelector, List.append_cancel_left_eq,
    List.append_cancel_right_eq] at texts
  exact String.toList_injective texts

private theorem preprocessed_selector (id : String) :
    preprocessed (pseudoSelector id).toList =
      "[data-layer-id=\"".toList ++ (preprocessed id.toList ++ '"' :: "]::before".toList) := by
  have start : '\r' ∉ "[data-layer-id=\"".toList := by decide
  have ends : Markup.lineFeeds "\"]::before".toList = "\"]::before".toList :=
    Markup.lineFeeds_eq_self (by decide)
  rw [preprocessed, toList_pseudoSelector, Markup.lineFeeds_of_notMem start, Markup.lineFeeds_append (by decide), ends,
    List.map_append, List.map_append]
  rfl

private theorem selectedId?_eq (id : String) :
    selectedId? (pseudoSelector id) =
      (stringFrom .text [] (preprocessed id.toList ++ '"' :: "]::before".toList)).bind fun found =>
        if found.2 = "]::before".toList then some (String.ofList found.1) else none := by
  have started (rest : List Char) :
      Markup.after? "[data-layer-id=\"" ("[data-layer-id=\"".toList ++ rest) = some rest := rfl
  rw [selectedId?, preprocessed_selector, started]
  rfl

private theorem of_mem_preprocessed {text : List Char} {c : Char}
    (member : c ∈ preprocessed text) : c ≠ '\r' ∧ c ≠ '\x0c' ∧ c ≠ '\x00' := by
  obtain ⟨read, inside, rfl⟩ := List.mem_map.mp member
  have other : read ≠ '\r' := by
    rintro rfl
    exact Markup.return_notMem_lineFeeds text inside
  split
  · decide
  next feed =>
    split
    · decide
    next null => exact ⟨other, feed, null⟩

private theorem preprocessed_eq_self {text : List Char}
    (plain : ∀ c ∈ text, c ≠ '\r' ∧ c ≠ '\x0c' ∧ c ≠ '\x00') : preprocessed text = text := by
  rw [preprocessed, Markup.lineFeeds_eq_self fun member => (plain _ member).1 rfl]
  refine (List.map_congr_left fun c member => ?_).trans (List.map_id _)
  obtain ⟨-, feed, null⟩ := plain c member
  rw [if_neg feed, if_neg null]
  rfl

private theorem isStringChar_iff {c : Char} :
    isStringChar c = true ↔
      isLiteralInString c = true ∧ c ≠ '\r' ∧ c ≠ '\x0c' ∧ c ≠ '\x00' := by
  simp only [isStringChar, isLiteralInString, List.contains_cons, List.contains_nil, Bool.or_false,
    Bool.not_or, Bool.and_eq_true, Bool.not_eq_true', beq_eq_false_iff_ne, bne_iff_ne]
  grind

/-- The selector of a stroke asks for the id that it was written from exactly where every character
of the id stands for itself. -/
theorem selectedId?_eq_some_iff {id : String} :
    selectedId? (pseudoSelector id) = some id ↔ ∀ c ∈ id.toList, isStringChar c = true := by
  rw [selectedId?_eq]
  generalize "]::before".toList = behind
  constructor
  · intro selected
    obtain ⟨⟨text, rest⟩, found, named⟩ := Option.bind_eq_some_iff.mp selected
    dsimp only at named
    split at named
    next same =>
      subst same
      obtain rfl : text = id.toList := by
        rw [← Option.some.inj named, String.toList_ofList]
      have long : (preprocessed id.toList).length ≤ id.toList.length := by
        rw [preprocessed, List.length_map]
        exact Markup.length_lineFeeds_le _
      obtain ⟨literal, same⟩ := literal_of_stringFrom found (by simpa using long)
      rw [List.reverse_nil, List.nil_append] at same
      intro c member
      rw [same] at member
      exact isStringChar_iff.mpr ⟨literal c member, of_mem_preprocessed member⟩
    next => cases named
  · intro plain
    rw [preprocessed_eq_self fun c member => (isStringChar_iff.mp (plain c member)).2,
      stringFrom_literal fun c member => (isStringChar_iff.mp (plain c member)).1]
    simp only [Option.bind_some, if_true, List.reverse_nil, List.nil_append, String.ofList_toList]

end Artboard.Css
