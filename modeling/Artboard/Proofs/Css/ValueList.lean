import Artboard.Proofs.Css.Splitting
import Artboard.Proofs.Number.Trimmed

/-!
# Values in a list

Words, lengths and calls are values that a list is split into. Each closes what it
opens and holds its separators in parentheses, wherever it stands.
-/
namespace Artboard.Css

open Nesting

/-- What holds of no text and passes to joined texts holds of a list of them with separators. -/
theorem intercalate_closed {P : List Char → Prop} (blank : P [])
    (joins : ∀ {first second}, P first → P second → P (first ++ second)) {separator : List Char}
    (between : P separator) {texts : List (List Char)} (each : ∀ text ∈ texts, P text) :
    P (separator.intercalate texts) := by
  induction texts with
  | nil => exact blank
  | cons first rest ih =>
    obtain ⟨here, later⟩ := List.forall_mem_cons.mp each
    cases rest with
    | nil => simpa using here
    | cons next rest =>
      rw [List.intercalate_cons_cons]
      exact joins (joins here between) (ih later)

variable {separator : Char} {least : Nat} {text rest : List Char}

/-- From the depth on, the text is part of one value: it holds its separators, and behind it the
nesting is what it was. -/
structure Held (separator : Char) (least : Nat) (text : List Char) : Prop where
  holds : ∀ depth, least ≤ depth → (⟨depth, none⟩ : Nesting).Holds separator text
  closes : ∀ depth, least ≤ depth → text.foldl next ⟨depth, none⟩ = ⟨depth, none⟩

theorem Held.append (first : Held separator least text) (second : Held separator least rest) :
    Held separator least (text ++ rest) where
  holds depth deep := by
    rw [Holds.append_iff, first.closes depth deep]
    exact ⟨first.holds depth deep, second.holds depth deep⟩
  closes depth deep := by rw [List.foldl_append, first.closes depth deep, second.closes depth deep]

theorem Held.mono (held : Held separator 0 text) : Held separator least text :=
  ⟨fun depth _ => held.holds depth (Nat.zero_le depth),
    fun depth _ => held.closes depth (Nat.zero_le depth)⟩

/-- Parentheses hold what is held inside them. -/
theorem Held.parens (held : Held separator 1 text) (ends : isLiteral separator = true) :
    Held separator 0 ('(' :: text ++ [')']) := by
  have opens (depth : Nat) : (⟨depth, none⟩ : Nesting).next '(' = ⟨depth + 1, none⟩ := rfl
  have inside (depth : Nat) : 1 ≤ depth + 1 := Nat.le_add_left 1 depth
  constructor
  · intro depth _
    rw [List.cons_append, Holds.cons_iff, opens, Holds.append_iff, held.closes _ (inside depth),
      Holds.cons_iff]
    -- The first parenthesis is no separator, and the second one stands inside.
    refine ⟨fun stops => ?_, held.holds _ (inside depth), fun stops => ?_, .nil⟩
    · cases isLiteral_of_isSeparator ends stops.2
    · simp [outside] at stops
  · intro depth _
    rw [List.cons_append, List.foldl_cons, opens, List.foldl_append, held.closes _ (inside depth)]
    rfl

private theorem holds_literal {depth : Nat} (literal : ∀ c ∈ text, isLiteral c = true)
    (kept : depth = 0 → ∀ c ∈ text, SplitState.isSeparator separator c = false) :
    (⟨depth, none⟩ : Nesting).Holds separator text := by
  rintro before c after rfl separates
  rw [foldl_next_literal fun d member => literal d (List.mem_append_left _ member)]
  -- Nothing before the separator has opened anything, so that the text began at the top.
  intro top
  have kept := kept (congrArg Nesting.depth top) c (by simp)
  cases kept.symm.trans separates

/-- Between parentheses literal characters are held, separators among them. -/
theorem held_inside (literal : ∀ c ∈ text, isLiteral c = true) : Held separator 1 text :=
  ⟨fun _ deep => holds_literal literal fun top => by omega,
    fun depth _ => foldl_next_literal literal depth⟩

/-- Literal characters that do not separate are held everywhere. -/
theorem held_outside
    (literal : ∀ c ∈ text, isLiteral c = true ∧ SplitState.isSeparator separator c = false) :
    Held separator least text :=
  have marks : ∀ c ∈ text, isLiteral c = true := fun c member => (literal c member).1
  ⟨fun _ _ => holds_literal marks fun _ c member => (literal c member).2,
    fun depth _ => foldl_next_literal marks depth⟩

/-! ### Words -/

/-- The characters of names, lengths and percentages. -/
def isWordChar (c : Char) : Bool := c.isAlphanum || c = '.' || c = '-' || c = '%'

/-- A text of word characters, such as a length or the name of a function. -/
def IsWord (text : List Char) : Prop := ∀ c ∈ text, isWordChar c = true

instance (text : List Char) : Decidable (IsWord text) :=
  decidable_of_decidable_of_iff List.all_eq_true

theorem isLiteral_of_isWordChar {c : Char} (word : isWordChar c = true) : isLiteral c = true := by
  -- None of the characters that are not literal is a word character.
  refine isLiteral_iff.mpr ⟨?_, ?_, ?_, ?_⟩
  all_goals
    rintro rfl
    contradiction

/-- A character that can separate values: it is in no word, and neither quotes nor stands for a
parenthesis. -/
def isDivider (c : Char) : Bool := isLiteral c && !isWordChar c

/-- Word characters are printed with one byte each. -/
theorem bounds_of_isWordChar {c : Char} (word : isWordChar c = true) :
    33 ≤ c.toNat ∧ c.toNat ≤ 126 := by
  change (decide (c.val ≥ 'A'.val ∧ c.val ≤ 'Z'.val) ||
    (decide (c.val ≥ 'a'.val) && decide (c.val ≤ 'z'.val)) ||
    (decide (c.val ≥ '0'.val) && decide (c.val ≤ '9'.val)) || decide (c = '.') ||
    decide (c = '-') || decide (c = '%')) = true at word
  simp only [Bool.or_eq_true, Bool.and_eq_true, decide_eq_true_eq, ge_iff_le,
    UInt32.le_iff_toNat_le] at word
  rcases word with ((((upper | lower) | digit) | rfl) | rfl) | rfl
  · exact ⟨Nat.le_trans (by decide) upper.1, Nat.le_trans upper.2 (by decide)⟩
  · exact ⟨Nat.le_trans (by decide) lower.1, Nat.le_trans lower.2 (by decide)⟩
  · exact ⟨Nat.le_trans (by decide) digit.1, Nat.le_trans digit.2 (by decide)⟩
  all_goals decide

theorem isBlank_of_isWordChar {c : Char} (word : isWordChar c = true) : Text.isBlank c = false := by
  have visible := bounds_of_isWordChar word
  simp only [Text.isBlank, Text.inRanges, Text.blankRanges, List.any_cons, List.any_nil,
    Bool.or_false, Bool.or_eq_false_iff, Bool.and_eq_false_iff, decide_eq_false_iff_not]
  omega

theorem isSeparator_of_isWordChar {c : Char} (word : isWordChar c = true)
    (divides : isDivider separator = true) : SplitState.isSeparator separator c = false := by
  have differs : c ≠ separator := by
    rintro rfl
    simp [isDivider, word] at divides
  simp [SplitState.isSeparator, differs, isBlank_of_isWordChar word]

theorem IsWord.append (first : IsWord text) (second : IsWord rest) : IsWord (text ++ rest) := by
  intro c member
  exact (List.mem_append.mp member).elim (first c) (second c)

theorem IsWord.held (word : IsWord text) (divides : isDivider separator = true) :
    Held separator least text :=
  held_outside fun c member =>
    ⟨isLiteral_of_isWordChar (word c member), isSeparator_of_isWordChar (word c member) divides⟩

private theorem isWordChar_of_isDigit {c : Char} (digit : c.isDigit = true) :
    isWordChar c = true := by
  simp [isWordChar, Char.isAlphanum, digit]

theorem isWord_digits {digits : List Char} (all : ∀ c ∈ digits, c.isDigit = true) :
    IsWord digits :=
  fun c member => isWordChar_of_isDigit (all c member)

private theorem isWord_numeral (numeral : Numeral) : IsWord numeral.text := by
  refine (isWord_digits numeral.whole_digits).append ?_
  split
  · simp [IsWord]
  · exact List.forall_mem_cons.mpr ⟨rfl, isWord_digits numeral.fraction_digits⟩

/-! ### Functions with arguments -/

/-- Words with blanks between them. -/
def IsPhrase (text : List Char) : Prop := ∀ c ∈ text, isWordChar c = true ∨ c = ' '

theorem IsPhrase.append (first : IsPhrase text) (second : IsPhrase rest) :
    IsPhrase (text ++ rest) := by
  intro c member
  exact (List.mem_append.mp member).elim (first c) (second c)

theorem IsWord.phrase (word : IsWord text) : IsPhrase text := fun c member => .inl (word c member)

theorem isPhrase_blank : IsPhrase [' '] := by simp [IsPhrase]

private theorem isLiteral_of_isPhrase (phrase : IsPhrase text) :
    ∀ c ∈ text, isLiteral c = true := by
  intro c member
  rcases phrase c member with word | rfl
  · exact isLiteral_of_isWordChar word
  · rfl

theorem IsPhrase.held_inside (phrase : IsPhrase text) : Held separator 1 text :=
  Css.held_inside (isLiteral_of_isPhrase phrase)

theorem IsPhrase.held_comma (phrase : IsPhrase text) : Held ',' least text := by
  refine held_outside fun c member => ⟨isLiteral_of_isPhrase phrase c member, ?_⟩
  rcases phrase c member with word | rfl
  · exact isSeparator_of_isWordChar word rfl
  · rfl

/-- A name with arguments in parentheses, such as a colour or a blur. -/
def IsCall (text : List Char) : Prop :=
  ∃ name arguments, IsWord name ∧ name ≠ [] ∧ (∀ c ∈ arguments, isWordChar c = true ∨ c = ',') ∧
    text = name ++ ('(' :: arguments ++ [')'])

theorem IsCall.held (call : IsCall text) (divides : isDivider separator = true) :
    Held separator 0 text := by
  obtain ⟨name, arguments, word, -, listed, rfl⟩ := call
  have ends : isLiteral separator = true := (Bool.and_eq_true_iff.mp divides).1
  refine (word.held divides).append (Held.parens (held_inside fun c member => ?_) ends)
  rcases listed c member with word | rfl
  · exact isLiteral_of_isWordChar word
  · rfl

/-- The text begins with a word. -/
def Starts (text : List Char) : Prop := ∃ c rest, text = c :: rest ∧ isWordChar c = true

theorem IsWord.starts (word : IsWord text) (inhabited : text ≠ []) : Starts text := by
  cases text with
  | nil => contradiction
  | cons c rest => exact ⟨c, rest, rfl, word c (.head _)⟩

theorem Starts.append (starts : Starts text) (rest : List Char) : Starts (text ++ rest) := by
  obtain ⟨c, after, rfl, word⟩ := starts
  exact ⟨c, after ++ rest, rfl, word⟩

theorem IsCall.starts (call : IsCall text) : Starts text := by
  obtain ⟨name, arguments, word, inhabited, -, rfl⟩ := call
  exact (word.starts inhabited).append _

theorem IsCall.closes (call : IsCall text) : ∃ front, text = front ++ [')'] := by
  obtain ⟨name, arguments, -, -, -, rfl⟩ := call
  exact ⟨name ++ '(' :: arguments, by simp⟩

/-- What is held outside is a value if there is nothing to trim. -/
private theorem Held.isClosedValue_of_trimmed (held : Held separator 0 text)
    (trimmed : Text.trim text = text) (inhabited : text ≠ []) : IsClosedValue separator text :=
  ⟨⟨inhabited, trimmed, held.holds 0 (Nat.le_refl 0)⟩, held.closes 0 (Nat.le_refl 0)⟩

/-- From a word to a closing parenthesis there is nothing to trim. -/
theorem Held.isClosedValue (held : Held separator 0 text) (starts : Starts text)
    (closes : ∃ front, text = front ++ [')']) : IsClosedValue separator text := by
  obtain ⟨c, rest, same, word⟩ := starts
  obtain ⟨front, closed⟩ := closes
  refine held.isClosedValue_of_trimmed
    (Text.stripped_eq_self (fun c first => ?_) fun c last => ?_) (by simp [same])
  · rw [same] at first
    cases first
    exact isBlank_of_isWordChar word
  · rw [closed, List.getLast?_concat] at last
    cases last
    rfl

/-- A word has nothing to trim. -/
theorem IsWord.isClosedValue (word : IsWord text) (inhabited : text ≠ [])
    (divides : isDivider separator = true) : IsClosedValue separator text := by
  have visible : ∀ c ∈ text, Text.isBlank c = false := fun c member =>
    isBlank_of_isWordChar (word c member)
  refine (word.held divides).isClosedValue_of_trimmed ?_ inhabited
  exact Text.stripped_eq_self (fun c first => visible c (List.mem_of_mem_head? first))
    fun c last => visible c (List.mem_of_mem_getLast? last)

theorem IsCall.isClosedValue (call : IsCall text) (divides : isDivider separator = true) :
    IsClosedValue separator text :=
  (call.held divides).isClosedValue call.starts call.closes

/-! ### Numbers -/

variable {α : Type} [Scalar α]

theorem isWord_number (value : α) {places : Nat} (fractional : places ≠ 0) :
    IsWord (number value places).toList := by
  obtain ⟨numeral, positive | negative⟩ := number_cases value fractional
  · rw [positive, String.toList_ofList]
    exact isWord_numeral numeral
  · rw [negative, String.toList_ofList]
    exact List.forall_mem_cons.mpr ⟨rfl, isWord_numeral numeral⟩

theorem isWord_px (value : α) : IsWord (px value).toList := by
  rw [px, String.toList_append]
  exact (isWord_number value (by decide)).append (by decide)

theorem starts_px (value : α) (rest : List Char) : Starts ((px value).toList ++ rest) :=
  ((isWord_px value).starts (by simp [px])).append rest

theorem isWord_int (value : Int) : IsWord (toString value).toList := by
  have natural (count : Nat) : IsWord (toString count).toList := by
    change IsWord (Nat.repr count).toList
    rw [Nat.repr, String.toList_ofList]
    exact isWord_digits fun _ => Nat.isDigit_of_mem_toDigits (by decide) (by decide)
  cases value with
  | ofNat count => exact natural count
  | negSucc count =>
    change IsWord ("-" ++ toString (count + 1)).toList
    rw [String.toList_append]
    exact IsWord.append (by decide) (natural (count + 1))

end Artboard.Css
