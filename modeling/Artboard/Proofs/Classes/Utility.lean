import Artboard.Classes.Size
import Artboard.Classes.Utility
import Artboard.Proofs.Css.Bag
import Artboard.Proofs.Number.Trimmed

/-!
# Rules of utility classes

The declaration that made a class is read back from the name of the class, so a
class in use has the rule of the declaration that it replaced.
-/
namespace Artboard.Classes

open Text

/-! ### Lengths in names -/

private theorem isDecimalDigit_of_isDigit {c : Char} (digit : c.isDigit = true) :
    isDecimalDigit c = true := by
  simp [isDecimalDigit, digit]

private theorem takeWhile_decimalDigits {digits rest : List Char}
    (all : ∀ c ∈ digits, isDecimalDigit c = true)
    (stop : ∀ c ∈ rest.head?, isDecimalDigit c = false) :
    (digits ++ rest).takeWhile isDecimalDigit = digits := by
  rw [List.takeWhile_append_of_pos all]
  cases rest with
  | nil => simp
  | cons c rest => simp [stop c rfl]

theorem takeWhile_digits {digits rest : List Char}
    (all : ∀ c ∈ digits, c.isDigit = true) (stop : ∀ c ∈ rest.head?, isDecimalDigit c = false) :
    (digits ++ rest).takeWhile isDecimalDigit = digits :=
  takeWhile_decimalDigits (fun c member => isDecimalDigit_of_isDigit (all c member)) stop

/-- Digits of any script with an optional fraction. -/
structure IsDecimal (whole fraction : List Char) : Prop where
  inhabited : whole ≠ []
  whole_digits : ∀ c ∈ whole, isDecimalDigit c = true
  fraction_digits : ∀ c ∈ fraction, isDecimalDigit c = true

/-- The text of a decimal. -/
def decimalText (whole fraction : List Char) : List Char :=
  whole ++ if fraction.isEmpty then [] else '.' :: fraction

theorem isDecimal_numeral (numeral : Numeral) : IsDecimal numeral.whole numeral.fraction where
  inhabited := numeral.inhabited
  whole_digits c member := isDecimalDigit_of_isDigit (numeral.whole_digits c member)
  fraction_digits c member := isDecimalDigit_of_isDigit (numeral.fraction_digits c member)

/-- A decimal is read up to a character that cannot continue it. -/
theorem spanNumber_decimal {whole fraction rest : List Char} (decimal : IsDecimal whole fraction)
    (stop : ∀ c ∈ rest.head?, isDecimalDigit c = false ∧ c ≠ '.') :
    spanNumber (decimalText whole fraction ++ rest) = some (decimalText whole fraction, rest) := by
  have ends : ∀ c ∈ rest.head?, isDecimalDigit c = false := fun c here => (stop c here).1
  rw [decimalText]
  cases fraction with
  | nil =>
    simp only [List.isEmpty_nil, if_true, List.append_nil]
    have read := takeWhile_decimalDigits decimal.whole_digits ends
    simp only [spanNumber, read, List.isEmpty_iff, decimal.inhabited, if_false, List.drop_left]
    split
    next after => exact absurd rfl (stop '.' rfl).2
    · rfl
  | cons first more =>
    -- The whole part ends at the point and the fraction where the rest begins.
    have point : ∀ c ∈ ('.' :: (first :: more) ++ rest).head?, isDecimalDigit c = false := by
      rintro c ⟨⟩
      decide
    have read := takeWhile_decimalDigits decimal.whole_digits point
    have fractional := takeWhile_decimalDigits decimal.fraction_digits ends
    simp only [List.isEmpty_cons, Bool.false_eq_true, if_false, List.append_assoc,
      List.cons_append] at read fractional ⊢
    simp [spanNumber, read, fractional, decimal.inhabited]

/-- What is read is a decimal in front of the rest. -/
theorem exists_of_spanNumber {text number rest : List Char}
    (read : spanNumber text = some (number, rest)) :
    ∃ whole fraction, IsDecimal whole fraction ∧ number = decimalText whole fraction ∧
      text = number ++ rest := by
  have digits (text : List Char) : ∀ c ∈ text.takeWhile isDecimalDigit, isDecimalDigit c = true :=
    fun _ => List.all_eq_true.mp List.all_takeWhile _
  have joined (text : List Char) : text.takeWhile isDecimalDigit ++
      text.drop (text.takeWhile isDecimalDigit).length = text :=
    List.prefix_iff_eq_append.mp (List.takeWhile_prefix _)
  have whole := joined text
  unfold spanNumber at read
  dsimp only at read
  split at read
  · contradiction
  next inhabited =>
    rw [List.isEmpty_iff] at inhabited
    have plain : IsDecimal (text.takeWhile isDecimalDigit) [] := ⟨inhabited, digits text, by simp⟩
    split at read
    next after point =>
      split at read
      · cases read
        exact ⟨_, [], plain, by simp [decimalText], whole.symm⟩
      next fractional =>
        cases read
        refine ⟨_, _, ⟨inhabited, digits text, digits after⟩,
          by rw [decimalText, if_neg fractional], ?_⟩
        rw [List.append_assoc, List.cons_append, joined after, ← point, whole]
    · cases read
      exact ⟨_, [], plain, by simp [decimalText], whole.symm⟩

/-- A numeral is read up to a character that cannot continue it. -/
theorem spanNumber_numeral (numeral : Numeral) {rest : List Char}
    (stop : ∀ c ∈ rest.head?, isDecimalDigit c = false ∧ c ≠ '.') :
    spanNumber (numeral.text ++ rest) = some (numeral.text, rest) :=
  spanNumber_decimal (isDecimal_numeral numeral) stop

theorem toList_lengthClass (start value : String) :
    (lengthClass start value).toList = start.toList ++ '-' :: '[' :: (value.toList ++ [']']) := by
  change (start ++ "-[" ++ value ++ "]").toList = _
  simp

variable {α : Type} [Scalar α]

theorem px_cases (value : α) : ∃ numeral : Numeral,
    (Css.px value).toList = numeral.text ++ ['p', 'x'] ∨
      (Css.px value).toList = '-' :: (numeral.text ++ ['p', 'x']) := by
  obtain ⟨numeral, positive | negative⟩ := Css.number_cases value (show 2 ≠ 0 by decide)
  · exact ⟨numeral, .inl (by simp [Css.px, positive])⟩
  · exact ⟨numeral, .inr (by simp [Css.px, negative])⟩

theorem head_numeral (numeral : Numeral) (rest : List Char) :
    ∃ c after, numeral.text ++ rest = c :: after ∧ c.isDigit = true := by
  rw [Numeral.text]
  have digits := numeral.whole_digits
  cases whole : numeral.whole with
  | nil => exact absurd whole numeral.inhabited
  | cons c after => exact ⟨c, _, rfl, digits c (by simp [whole])⟩

/-- A length in pixels, with or without a minus. -/
def IsMeasure (text : List Char) : Prop :=
  ∃ whole fraction, IsDecimal whole fraction ∧
    (text = decimalText whole fraction ++ ['p', 'x'] ∨
      text = '-' :: (decimalText whole fraction ++ ['p', 'x']))

theorem isMeasure_px (value : α) : IsMeasure (Css.px value).toList := by
  obtain ⟨numeral, written⟩ := px_cases value
  exact ⟨_, _, isDecimal_numeral numeral, written⟩

/-- A length that becomes a class is a measure, unless a line break follows it. -/
theorem isMeasure_of_isPixelLength {text : List Char} (pixels : isPixelLength text = true)
    (unbroken : '\n' ∉ text) : IsMeasure text := by
  rw [isPixelLength] at pixels
  split at pixels
  next number rest read =>
    obtain ⟨whole, fraction, decimal, rfl, rfl⟩ := exists_of_spanNumber read
    obtain ⟨unit, ended⟩ := Bool.and_eq_true_iff.mp pixels
    obtain ⟨more, rfl⟩ := List.isPrefixOf_iff_prefix.mp unit
    have nothing : more = [] := by
      rcases Bool.or_eq_true_iff.mp ended with empty | broken
      · exact List.isEmpty_iff.mp empty
      · have broken : more = ['\n'] := beq_iff_eq.mp broken
        simp [broken] at unbroken
    exact ⟨whole, fraction, decimal, .inl (by simp [nothing])⟩
  · contradiction

/-- A measure is read back from what follows the start of its class. -/
theorem lengthOfClass_measure (property : String) {text : List Char} (measure : IsMeasure text) :
    lengthOfClass property ('-' :: '[' :: (text ++ [']'])) =
      some (property, String.ofList text) := by
  obtain ⟨whole, fraction, decimal, written⟩ := measure
  have stop : ∀ c ∈ (['p', 'x', ']'] : List Char).head?,
      isDecimalDigit c = false ∧ c ≠ '.' := by
    rintro c ⟨⟩
    decide
  have read := spanNumber_decimal decimal stop
  rcases written with rfl | rfl
  · -- A decimal begins with a digit, so no sign is read off.
    have unsigned : ∀ rest, decimalText whole fraction ++ ['p', 'x', ']'] ≠ '-' :: rest := by
      obtain ⟨inhabited, digits, -⟩ := decimal
      cases whole with
      | nil => exact absurd rfl inhabited
      | cons c after =>
        rintro rest ⟨⟩
        exact absurd (digits '-' (.head _)) (by decide)
    rw [List.append_assoc, List.cons_append, List.singleton_append, lengthOfClass]
    · simp [read, atEnd]
    · exact unsigned
  · rw [List.cons_append, List.append_assoc, List.cons_append, List.singleton_append,
      lengthOfClass]
    simp [read, atEnd]

/-! ### Declarations of classes -/

theorem mem_of_lookup {β γ : Type} [BEq β] [LawfulBEq β] {entries : List (β × γ)} {key : β}
    {value : γ} (found : entries.lookup key = some value) : (key, value) ∈ entries := by
  obtain ⟨before, after, rfl, -⟩ := List.lookup_eq_some_iff.mp found
  simp

theorem bracket_notMem_simple :
    ∀ entry ∈ simpleUtilities, '[' ∉ entry.2.toList := by decide +kernel

/-- The class of a length in pixels stands for this length. -/
theorem declarationOf_lengthClass {property start value : String}
    (known : (property, start) ∈ lengthUtilities) (measure : IsMeasure value.toList) :
    declarationOf (lengthClass start value) = some (property, value) := by
  -- A simple class has no bracket in its name.
  have unnamed : (simpleUtilities.find? (·.2 == lengthClass start value)) = none := by
    rw [List.find?_eq_none]
    intro entry member same
    apply bracket_notMem_simple entry member
    rw [beq_iff_eq.mp same, toList_lengthClass]
    simp
  rw [declarationOf, unnamed]
  simp only [lengthUtilities, List.mem_cons, Prod.mk.injEq, List.not_mem_nil, or_false] at known
  have gap : "gap".length = 3 := by decide
  have rowGap : "gap-y".length = 5 := by decide
  have columnGap : "gap-x".length = 5 := by decide
  have width : "w".length = 1 := by decide
  have height : "h".length = 1 := by decide
  -- Of the starts that fit, such as `gap` for `gap-x`, only the right one is followed by a bracket.
  have other (property : String) (c : Char) (rest : List Char) (differs : c ≠ '[') :
      lengthOfClass property ('-' :: c :: rest) = none := by
    rw [lengthOfClass]
    rintro rest ⟨⟩
    exact differs rfl
  -- The search goes through the starts in order, so each of them is a case of its own.
  rcases known with ⟨rfl, rfl⟩ | ⟨rfl, rfl⟩ | ⟨rfl, rfl⟩ | ⟨rfl, rfl⟩ | ⟨rfl, rfl⟩ <;>
    simp [lengthUtilities, List.findSome?, toList_lengthClass, lengthOfClass_measure _ measure, gap,
      rowGap, columnGap, width, height, other]

/-- A size class stands for the size that it was made from. -/
theorem declarationOf_pixelClass {property start : String}
    (known : (property, start) ∈ lengthUtilities) (value : α) :
    declarationOf (pixelClass start (Css.number value 2)) = some (property, Css.px value) := by
  have same : pixelClass start (Css.number value 2) = lengthClass start (Css.px value) := by
    apply String.toList_injective
    rw [toList_lengthClass]
    change (start ++ "-[" ++ Css.number value 2 ++ "px]").toList = _
    simp [Css.px]
  rw [same, declarationOf_lengthClass known (isMeasure_px value)]

private theorem declarationOf_simple :
    ∀ entry ∈ simpleUtilities, declarationOf entry.2 = some entry.1 := by decide +kernel

/-- A utility class stands for the declaration that it replaces, if a gap in pixels is a measure:
one with a line break behind it is not. -/
theorem declarationOf_of_isMeasure {declaration : Css.Declaration} {name : String}
    (measures : declaration.1 ∈ gapProperties → isPixelLength declaration.2.toList = true →
      IsMeasure declaration.2.toList)
    (classed : utilityClass? declaration = some name) : declarationOf name = some declaration := by
  rw [utilityClass?] at classed
  split at classed
  next found =>
    obtain rfl := Option.some.inj classed
    exact declarationOf_simple _ (mem_of_lookup found)
  · split at classed
    next measured =>
      simp only [Bool.and_eq_true, List.contains_iff_mem] at measured
      obtain ⟨start, known, rfl⟩ := Option.map_eq_some_iff.mp classed
      exact declarationOf_lengthClass (mem_of_lookup known) (measures measured.1 measured.2)
    · contradiction

/-- A utility class stands for the declaration that it replaces, whose gap is in pixels. -/
theorem declarationOf_of_utilityClass? {declaration : Css.Declaration} {name : String}
    (pixels : declaration.1 ∈ gapProperties → ∃ value : α, declaration.2 = Css.px value)
    (classed : utilityClass? declaration = some name) : declarationOf name = some declaration := by
  refine declarationOf_of_isMeasure (fun gap _ => ?_) classed
  obtain ⟨value, same⟩ := pixels gap
  exact same ▸ isMeasure_px value

/-- What has no class is left. -/
theorem toList_splitUtilities (bag : Css.Declarations) :
    (splitUtilities bag).2.toList =
      bag.toList.filter fun declaration => (utilityClass? declaration).isNone :=
  Css.Declarations.toList_ofList (bag.distinct.sublist (List.filter_sublist.map Prod.fst))

/-- The name is the start of a class with a length, and the bracket that opens the length. -/
def MeasuredBy (start name : String) : Prop := start.toList ++ ['-', '['] <+: name.toList

theorem lengthOfClass_cases {property : String} {text : List Char} {declaration : Css.Declaration}
    (read : lengthOfClass property text = some declaration) :
    declaration.1 = property ∧ ['-', '['] <+: text := by
  unfold lengthOfClass at read
  split at read
  · dsimp only at read
    split at read
    · split at read
      · cases read
        exact ⟨rfl, by simp⟩
      · contradiction
    · contradiction
  · contradiction

/-- A class that stands for a declaration is one of the simple ones, or it is named after the
property and has a length. -/
theorem declarationOf_cases {name : String} {declaration : Css.Declaration}
    (known : declarationOf name = some declaration) :
    (declaration, name) ∈ simpleUtilities ∨
      ∃ start, (declaration.1, start) ∈ lengthUtilities ∧ MeasuredBy start name := by
  rw [declarationOf] at known
  split at known
  next found =>
    cases known
    have named := List.find?_some found
    obtain rfl := beq_iff_eq.mp named
    exact .inl (List.mem_of_find?_eq_some found)
  · obtain ⟨⟨property, start⟩, member, read⟩ := List.exists_of_findSome?_eq_some known
    dsimp only at read
    split at read
    next starts =>
      obtain ⟨after, whole⟩ := List.isPrefixOf_iff_prefix.mp starts
      have rest : name.toList.drop start.length = after := by
        rw [← whole, ← String.length_toList, List.drop_left]
      rw [rest] at read
      obtain ⟨same, opens⟩ := lengthOfClass_cases read
      refine .inr ⟨start, same ▸ member, ?_⟩
      rw [MeasuredBy, ← whole]
      exact (List.prefix_append_right_inj _).mpr opens
    · contradiction

/-- No utility class is named like a shared one. -/
theorem not_prefix_of_declarationOf {name : String} {declaration : Css.Declaration}
    (known : declarationOf name = some declaration) : ¬ ['s', 'c', '-'] <+: name.toList := by
  have simple : ∀ entry ∈ simpleUtilities, ¬ ['s', 'c', '-'] <+: entry.2.toList := by
    decide +kernel
  have measured : ∀ entry ∈ lengthUtilities, ∃ c rest, entry.2.toList = c :: rest ∧ c ≠ 's' := by
    simp [lengthUtilities]
  rcases declarationOf_cases known with member | ⟨start, member, after, whole⟩
  · exact simple _ member
  · obtain ⟨c, rest, begins, differs⟩ := measured _ member
    dsimp only at begins
    rw [← whole, begins]
    intro shared
    exact differs (List.cons_prefix_cons.mp shared).1.symm

/-! ### Classes in use -/

namespace UtilitySet

theorem mem_names_add {used : UtilitySet} {names : List String} {name : String} :
    name ∈ (used.add names).names ↔ name ∈ used.names ∨ name ∈ names := by
  obtain ⟨known⟩ := used
  simp only [add]
  induction names generalizing known with
  | nil => simp
  | cons first rest ih =>
    rw [List.foldl_cons, ih]
    split
    next old =>
      have old : first ∈ known := by simpa using old
      grind
    next => grind

theorem nodup_names_add {used : UtilitySet} (distinct : used.names.Nodup) (names : List String) :
    (used.add names).names.Nodup := by
  obtain ⟨known⟩ := used
  simp only [add]
  induction names generalizing known with
  | nil => exact distinct
  | cons first rest ih =>
    rw [List.foldl_cons]
    apply ih
    split
    next => exact distinct
    next new => exact List.nodup_cons.mpr ⟨by simpa using new, distinct⟩

theorem mem_ordered {used : UtilitySet} {name : String} :
    name ∈ used.ordered ↔ name ∈ used.names := by
  simp only [ordered, contains, List.mem_append, List.mem_filter, List.mem_mergeSort,
    List.contains_iff_mem, Bool.not_eq_true', ← Bool.not_eq_true]
  tauto

theorem nodup_ordered {used : UtilitySet} (distinct : used.names.Nodup) : used.ordered.Nodup := by
  have simple : (simpleUtilities.map Prod.snd).Nodup := by decide +kernel
  have others := (List.mergeSort_perm (used.names.filter
    fun name => !(simpleUtilities.map Prod.snd).contains name)
    fun first second => decide (first ≤ second)).symm.nodup (distinct.filter _)
  refine List.nodup_append.mpr ⟨simple.filter _, others, ?_⟩
  intro name named other sorted same
  subst same
  simp only [List.mem_mergeSort, List.mem_filter] at named sorted
  rw [List.contains_iff_mem.mpr named.1] at sorted
  exact absurd sorted.2 (by decide)

end UtilitySet

end Artboard.Classes
