import Artboard.Proofs.Css.Nesting
import Artboard.Proofs.Text.Ends

/-!
# Splitting what was joined

A list of values is split where its separator stands outside quotes and
parentheses. Values that are joined come back from it, with blanks around them or
without. Whatever a text is split into comes back from a join as well: a quote or a
parenthesis that stays open takes in all that follows, so only the last value can
have one.
-/
namespace Artboard.Text

variable {text space : List Char}

private theorem dropWhile_isBlank (blank : allBlank space = true) : space.dropWhile isBlank = [] := by
  have dropped : (space ++ []).dropWhile isBlank = [] :=
    List.dropWhile_append_of_pos (List.all_eq_true.mp blank)
  rwa [List.append_nil] at dropped

theorem trim_blank_append (blank : allBlank space = true) : trim (space ++ text) = trim text := by
  rw [trim, trimLeft, List.dropWhile_append_of_pos (List.all_eq_true.mp blank)]
  rfl

theorem trim_append_blank (blank : allBlank space = true) : trim (text ++ space) = trim text := by
  have all := List.all_eq_true.mp blank
  have dropped (front : List Char) : trimRight (front ++ space) = trimRight front := by
    rw [trimRight, List.reverse_append, List.dropWhile_append_of_pos (by simpa using all)]
    rfl
  rw [trim, trim, trimLeft, List.dropWhile_append]
  split
  next none =>
    -- A text of blanks has nothing that the blanks behind it could follow.
    rw [List.isEmpty_iff] at none
    rw [trimLeft, none, dropWhile_isBlank blank]
  next some => exact dropped _

/-- What is trimmed off are blanks. -/
theorem exists_trim (text : List Char) :
    ∃ before after, allBlank before = true ∧ allBlank after = true ∧
      text = before ++ (trim text ++ after) := by
  refine ⟨text.takeWhile isBlank, ((trimLeft text).reverse.takeWhile isBlank).reverse,
    List.all_takeWhile, ?_, ?_⟩
  · rw [allBlank, List.all_reverse]
    exact List.all_takeWhile
  · rw [trim, trimRight, ← List.reverse_append, List.takeWhile_append_dropWhile,
      List.reverse_reverse, trimLeft, List.takeWhile_append_dropWhile]

theorem trim_trim (text : List Char) : trim (trim text) = trim text := stripped_stripped

end Artboard.Text

namespace Artboard.Css

open Nesting Text

variable {separator c : Char} {text rest space : List Char}

/-! ### Values -/

/-- A text that can be one value of a list: no blank at either end, and no separator outside its
quotes and parentheses. -/
structure IsValue (separator : Char) (value : List Char) : Prop where
  inhabited : value ≠ []
  trimmed : trim value = value
  held : outside.Holds separator value

/-- A value behind which a list goes on. -/
structure IsClosedValue (separator : Char) (value : List Char) : Prop
    extends IsValue separator value where
  closed : nestingAfter value = outside

instance (value : List Char) : Decidable (IsClosedValue separator value) :=
  decidable_of_iff
    ((value ≠ [] ∧ trim value = value ∧ outside.Holds separator value) ∧
      nestingAfter value = outside)
    ⟨fun known => ⟨⟨known.1.1, known.1.2.1, known.1.2.2⟩, known.2⟩,
      fun known => ⟨⟨known.inhabited, known.trimmed, known.held⟩, known.closed⟩⟩

/-- All are values, and all but the last one are closed. -/
def AreValues (separator : Char) : List (List Char) → Prop
  | [] => True
  | [value] => IsValue separator value
  | value :: next :: rest => IsClosedValue separator value ∧ AreValues separator (next :: rest)

theorem AreValues.of_closed {values : List (List Char)}
    (closed : ∀ value ∈ values, IsClosedValue separator value) : AreValues separator values := by
  induction values with
  | nil => trivial
  | cons value rest ih =>
    obtain ⟨here, later⟩ := List.forall_mem_cons.mp closed
    cases rest with
    | nil => exact here.toIsValue
    | cons next rest => exact ⟨here, ih later⟩

theorem AreValues.cons {value : List Char} {values : List (List Char)}
    (first : IsClosedValue separator value) (others : AreValues separator values) :
    AreValues separator (value :: values) := by
  cases values with
  | nil => exact first.toIsValue
  | cons next rest => exact ⟨first, others⟩

theorem AreValues.isValue {values : List (List Char)} (known : AreValues separator values) :
    ∀ value ∈ values, IsValue separator value := by
  induction values with
  | nil => simp
  | cons value rest ih =>
    cases rest with
    | nil => exact List.forall_mem_singleton.mpr known
    | cons next rest => exact List.forall_mem_cons.mpr ⟨known.1.toIsValue, ih known.2⟩

/-! ### Blanks around values -/

/-- Blanks at either end of the open part are trimmed off it. -/
theorem part_blank_append (nesting : Nesting) (current : List Char)
    (blank : allBlank space = true) :
    (SplitState.at nesting (space ++ current)).part? = (SplitState.at nesting current).part? := by
  have reversed : allBlank space.reverse = true := by simpa [allBlank] using blank
  rw [part_at, part_at, List.reverse_append, trim_append_blank reversed]

theorem part_append_blank (nesting : Nesting) (current : List Char)
    (blank : allBlank space = true) :
    (SplitState.at nesting (current ++ space)).part? = (SplitState.at nesting current).part? := by
  have reversed : allBlank space.reverse = true := by simpa [allBlank] using blank
  rw [part_at, part_at, List.reverse_append, trim_blank_append reversed]

private theorem allBlank_cons (blank : allBlank (c :: rest) = true) :
    isBlank c = true ∧ allBlank rest = true := by
  simpa [allBlank] using blank

private theorem allBlank_singleton (blank : isBlank c = true) : allBlank [c] = true := by
  simpa [allBlank] using blank

/-- Blanks that were read first make no difference to the parts. -/
private theorem splitFrom_append_blank (ends : isLiteral separator = true)
    (blank : allBlank space = true) (nesting : Nesting) (current : List Char) :
    splitFrom separator (.at nesting (current ++ space)) text =
      splitFrom separator (.at nesting current) text := by
  induction text generalizing nesting current with
  | nil => rw [splitFrom, splitFrom, part_append_blank _ _ blank]
  | cons c rest ih =>
    have later := ih (nesting.next c) (c :: current)
    rw [splitFrom_cons ends, splitFrom_cons ends, part_append_blank _ _ blank, ← later,
      List.cons_append]

theorem splitTopLevel_blank_append (ends : isLiteral separator = true)
    (blank : allBlank space = true) :
    splitTopLevel separator (space ++ text) = splitTopLevel separator text := by
  induction space with
  | nil => rfl
  | cons c rest ih =>
    obtain ⟨here, later⟩ := allBlank_cons blank
    have next : outside.next c = outside := next_isBlank marked_outside here
    change splitFrom separator (.at outside []) (c :: (rest ++ text)) = _
    rw [splitFrom_cons ends, next]
    split
    -- The blank is a separator: nothing was read before it.
    · exact ih later
    · exact (splitFrom_append_blank ends (allBlank_singleton here) outside []).trans (ih later)

theorem splitTopLevel_blank (ends : isLiteral separator = true) (blank : allBlank space = true) :
    splitTopLevel separator space = [] := by
  have dropped : splitTopLevel separator (space ++ []) = [] :=
    splitTopLevel_blank_append ends blank
  rwa [List.append_nil] at dropped

/-- Blanks at the end of a list make no difference to the open part. -/
private theorem splitFrom_blank (ends : isLiteral separator = true) (blank : allBlank space = true)
    {nesting : Nesting} (marked : nesting.Marked) (current : List Char) :
    splitFrom separator (.at nesting current) space =
      (SplitState.at nesting current).part?.toList := by
  induction space generalizing current with
  | nil => rfl
  | cons c rest ih =>
    obtain ⟨here, later⟩ := allBlank_cons blank
    rw [splitFrom_cons ends, next_isBlank marked here]
    split
    · rw [splitTopLevel_blank ends later, List.append_nil]
    · rw [ih later]
      exact congrArg Option.toList
        (part_blank_append nesting current (allBlank_singleton here))

/-- Behind a closed value and blanks, a separator ends the part and the list is read anew. -/
private theorem splitFrom_separator (ends : isLiteral separator = true)
    (blank : allBlank space = true) (current : List Char) :
    splitFrom separator (.at outside current) (space ++ separator :: text) =
      (SplitState.at outside current).part?.toList ++ splitTopLevel separator text := by
  have itself : SplitState.isSeparator separator separator = true := by
    simp [SplitState.isSeparator]
  induction space generalizing current with
  | nil => rw [List.nil_append, splitFrom_cons ends, if_pos ⟨rfl, itself⟩]
  | cons c rest ih =>
    obtain ⟨here, later⟩ := allBlank_cons blank
    rw [List.cons_append, splitFrom_cons ends, next_isBlank marked_outside here]
    split
    next stops =>
      -- The blank has ended the part, so that the separator behind it stands in front of a list.
      rw [splitTopLevel_blank_append ends later]
      change _ ++ splitFrom separator (.at outside []) (separator :: text) = _
      rw [splitFrom_cons ends, if_pos ⟨rfl, itself⟩]
      rfl
    · rw [ih later]
      exact congrArg (·.toList ++ _)
        (part_blank_append outside current (allBlank_singleton here))

/-! ### Joined values -/

/-- What is held becomes part of the open value. -/
private theorem splitFrom_held (ends : isLiteral separator = true) {nesting : Nesting}
    (held : nesting.Holds separator text) (current : List Char) :
    splitFrom separator (.at nesting current) (text ++ rest) =
      splitFrom separator (.at (text.foldl next nesting) (text.reverse ++ current)) rest := by
  induction text generalizing nesting current with
  | nil => rfl
  | cons c text ih =>
    obtain ⟨here, later⟩ := Holds.cons_iff.mp held
    rw [List.cons_append, splitFrom_cons ends, if_neg here, ih later]
    simp

private theorem IsValue.part {value : List Char} (known : IsValue separator value)
    (nesting : Nesting) : (SplitState.at nesting value.reverse).part? = some value := by
  rw [part_at, List.reverse_reverse, known.trimmed, if_neg known.inhabited]

/-- The texts that list values: with a separator between any two of them, and with blanks before
and behind each or without. -/
inductive Lists (separator : Char) : List (List Char) → List Char → Prop
  | nothing {blanks : List Char} : allBlank blanks = true → Lists separator [] blanks
  | last {before value after : List Char} : allBlank before = true → allBlank after = true →
      Lists separator [value] (before ++ (value ++ after))
  | more {before value after others : List Char} {values : List (List Char)} :
      allBlank before = true → allBlank after = true → values ≠ [] → Lists separator values others →
      Lists separator (value :: values) (before ++ (value ++ (after ++ separator :: others)))

theorem lists_intercalate (separator : Char) (values : List (List Char)) :
    Lists separator values ([separator].intercalate values) := by
  induction values with
  | nil => exact .nothing rfl
  | cons value rest ih =>
    cases rest with
    | nil =>
      have alone : Lists separator [value] ([] ++ (value ++ [])) := .last rfl rfl
      simpa using alone
    | cons next rest =>
      have joined : Lists separator (value :: next :: rest)
          ([] ++ (value ++ ([] ++ separator :: [separator].intercalate (next :: rest)))) :=
        .more rfl rfl (List.cons_ne_nil _ _) ih
      simpa [List.intercalate_cons_cons] using joined

/-- A text that lists values is split into these. -/
theorem splitTopLevel_of_lists (ends : isLiteral separator = true) {values : List (List Char)}
    (known : AreValues separator values) (listed : Lists separator values text) :
    splitTopLevel separator text = values := by
  induction listed with
  | nothing blank => exact splitTopLevel_blank ends blank
  | @last before value after first behind =>
    replace known : IsValue separator value := known
    have marked : (value.foldl next outside).Marked := marked_nestingAfter value
    rw [splitTopLevel_blank_append ends first]
    change splitFrom separator (.at outside []) _ = _
    rw [splitFrom_held ends known.held, List.append_nil, splitFrom_blank ends behind marked,
      known.part]
    rfl
  | @more before value after others values first behind inhabited _ ih =>
    obtain ⟨next, rest, rfl⟩ := List.exists_cons_of_ne_nil inhabited
    obtain ⟨closed, known⟩ := known
    have top : value.foldl Nesting.next outside = outside := closed.closed
    rw [splitTopLevel_blank_append ends first]
    change splitFrom separator (.at outside []) _ = _
    rw [splitFrom_held ends closed.held, List.append_nil, top, splitFrom_separator ends behind,
      closed.part, ih known]
    rfl

/-- A joined list is split into its values. -/
theorem splitTopLevel_intercalate (ends : isLiteral separator = true) {values : List (List Char)}
    (closed : ∀ value ∈ values, IsClosedValue separator value) :
    splitTopLevel separator ([separator].intercalate values) = values :=
  splitTopLevel_of_lists ends (.of_closed closed) (lists_intercalate separator values)

/-! ### Parts of any text -/

/-- The open part is trimmed to a value, which is closed where the part stands outside. -/
private theorem value_of_part {current part : List Char}
    (held : outside.Holds separator current.reverse) {nesting : Nesting}
    (found : (SplitState.at nesting current).part? = some part) :
    IsValue separator part ∧ nestingAfter part = nestingAfter current.reverse := by
  rw [part_at] at found
  split at found
  · cases found
  next inhabited =>
    cases found
    obtain ⟨before, after, first, last, whole⟩ := exists_trim current.reverse
    have top : before.foldl next outside = outside := foldl_next_blank marked_outside first
    -- The blanks in front leave the nesting outside, and those behind leave it as it is.
    rw [whole, Holds.append_iff, top, Holds.append_iff] at held
    refine ⟨⟨inhabited, trim_trim _, held.2.1⟩, ?_⟩
    conv_rhs => rw [whole, nestingAfter, List.foldl_append, top, List.foldl_append]
    exact (foldl_next_blank (marked_nestingAfter _) last).symm

/-- Whatever is read, the parts are values, and all but the last one are closed. -/
private theorem areValues_splitFrom (ends : isLiteral separator = true) (text : List Char)
    {current : List Char} (held : outside.Holds separator current.reverse) :
    AreValues separator
      (splitFrom separator (.at (nestingAfter current.reverse) current) text) := by
  induction text generalizing current with
  | nil =>
    rw [splitFrom]
    cases found : (SplitState.at (nestingAfter current.reverse) current).part? with
    | none => trivial
    | some part => exact (value_of_part held found).1
  | cons c rest ih =>
    rw [splitFrom_cons ends]
    split
    next stops =>
      -- Behind a separator nothing is open, so the list is read from the start.
      have others : AreValues separator (splitTopLevel separator rest) := @ih [] .nil
      cases found : (SplitState.at (nestingAfter current.reverse) current).part? with
      | none => exact others
      | some part =>
        obtain ⟨value, same⟩ := value_of_part held found
        exact .cons ⟨value, same.trans stops.1⟩ others
    next goes =>
      have longer : outside.Holds separator (c :: current).reverse := by
        rw [List.reverse_cons, Holds.append_iff, Holds.cons_iff]
        exact ⟨held, goes, .nil⟩
      have further := ih longer
      rw [List.reverse_cons, nestingAfter_append] at further
      exact further

theorem areValues_splitTopLevel (ends : isLiteral separator = true) (text : List Char) :
    AreValues separator (splitTopLevel separator text) :=
  @areValues_splitFrom separator ends text [] .nil

/-- Splitting at commas or at blanks undoes joining. Closed values come back from every text that
lists them, the joined one among these. Any text is split into inhabited trimmed parts, and these
come back when they are joined. -/
theorem splitting_undoes_joining (known : separator = ',' ∨ separator = ' ') :
    (∀ values text, (∀ value ∈ values, IsClosedValue separator value) →
        Lists separator values text → splitTopLevel separator text = values) ∧
      (∀ values, Lists separator values ([separator].intercalate values)) ∧
      ∀ text, (∀ part ∈ splitTopLevel separator text, part ≠ [] ∧ trim part = part) ∧
        splitTopLevel separator ([separator].intercalate (splitTopLevel separator text)) =
          splitTopLevel separator text := by
  have ends : isLiteral separator = true := by
    rcases known with rfl | rfl <;> rfl
  refine ⟨fun values text closed listed => ?_, lists_intercalate separator, fun text => ?_⟩
  · exact splitTopLevel_of_lists ends (.of_closed closed) listed
  · have parts := areValues_splitTopLevel ends text
    constructor
    · intro part member
      have value := parts.isValue part member
      exact ⟨value.inhabited, value.trimmed⟩
    · exact splitTopLevel_of_lists ends parts (lists_intercalate separator _)

/-- A list whose values hold commas of their own, and a text that closes a parenthesis too many and
leaves a quote open. -/
theorem nested_separators_come_back :
    (∀ value ∈ ["blur(2px, 3px)".toList, "'a, (' b)".toList], IsClosedValue ',' value) ∧
      splitTopLevel ',' " blur(2px, 3px) ,\t'a, (' b) ".toList =
        ["blur(2px, 3px)".toList, "'a, (' b)".toList] ∧
      splitTopLevel ' ' " a)  (b c\t\"d ".toList = ["a)".toList, "(b c\t\"d".toList] ∧
      splitTopLevel ' ' ([' '].intercalate (splitTopLevel ' ' " a)  (b c\t\"d ".toList)) =
        splitTopLevel ' ' " a)  (b c\t\"d ".toList := by
  have closed : ∀ value ∈ ["blur(2px, 3px)".toList, "'a, (' b)".toList],
      IsClosedValue ',' value := by decide +kernel
  have listed : Lists ',' ["blur(2px, 3px)".toList, "'a, (' b)".toList]
      (" ".toList ++ ("blur(2px, 3px)".toList ++ (" ".toList ++ ',' ::
        ("\t".toList ++ ("'a, (' b)".toList ++ " ".toList))))) :=
    .more rfl rfl (by simp) (.last rfl rfl)
  refine ⟨closed, ?_, by decide +kernel, (splitting_undoes_joining (.inr rfl)).2.2 _ |>.2⟩
  exact (splitting_undoes_joining (.inl rfl)).1 _ _ closed listed

end Artboard.Css
