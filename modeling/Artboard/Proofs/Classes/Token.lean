import Artboard.Proofs.Classes.Semantic
import Artboard.Proofs.Text.Case

/-!
# Names as tokens

A name is made into one token: characters of classes, hyphens only between others,
and never two of them side by side. No step of this undoes what another step did, so
that a token stays as it is. The class of a node is a token that says something, or
the fallback.
-/
namespace Artboard.Classes

open Text

/-- Characters of classes, with hyphens one by one between others. -/
structure IsToken (text : List Char) : Prop where
  plain : ∀ c ∈ text, isClassChar c = true
  first : text.head? ≠ some '-'
  last : text.getLast? ≠ some '-'
  single : ¬ ['-', '-'] <:+: text

/-! ### Characters of classes -/

private theorem bounds_of_isClassChar {c : Char} (kept : isClassChar c = true) :
    (0x61 ≤ c.toNat ∧ c.toNat ≤ 0x7A) ∨ (0x30 ≤ c.toNat ∧ c.toNat ≤ 0x39) ∨ c.toNat = 0x5F ∨
      c.toNat = 0x2D := by
  change (decide (c.val ≥ 'a'.val) && decide (c.val ≤ 'z'.val) ||
    (decide (c.val ≥ '0'.val) && decide (c.val ≤ '9'.val)) || decide (c = '_') ||
    decide (c = '-')) = true at kept
  simp only [Bool.or_eq_true, Bool.and_eq_true, decide_eq_true_eq, ge_iff_le,
    UInt32.le_iff_toNat_le] at kept
  rcases kept with ((lower | digit) | rfl) | rfl
  · exact .inl lower
  · exact .inr (.inl digit)
  · exact .inr (.inr (.inl rfl))
  · exact .inr (.inr (.inr rfl))

private theorem isDigit_of_isLower {c : Char} (small : c.isLower = true) : c.isDigit = false := by
  have from_a : 0x61 ≤ c.toNat := of_decide_eq_true (Bool.and_eq_true_iff.mp small).1
  rw [Bool.eq_false_iff, Ne, Char.isDigit_iff_toNat]
  have nine : '9'.toNat = 0x39 := rfl
  omega

private theorem isSeparator_of_isClassChar {c : Char} (kept : isClassChar c = true) :
    isSeparator c = false := by
  have bounds := bounds_of_isClassChar kept
  have visible : isBlank c = false := by
    simp only [isBlank, inRanges, blankRanges, List.any_cons, List.any_nil, Bool.or_false,
      Bool.or_eq_false_iff, Bool.and_eq_false_iff, decide_eq_false_iff_not]
    omega
  have listed : ∀ mark ∈ "()[]\x7b\x7d/\\,.".toList, isClassChar mark = false :=
    List.forall_iff_forall_mem.mp (by decide)
  rw [isSeparator, visible, Bool.false_or, Bool.eq_false_iff]
  intro found
  rw [listed c (List.contains_iff_mem.mp found)] at kept
  contradiction

private theorem toLower_of_isClassChar {c : Char} (kept : isClassChar c = true) :
    c.toLower = c := by
  have bounds := bounds_of_isClassChar kept
  refine dif_neg ?_
  rintro ⟨from_A, to_Z⟩
  have least : 0x41 ≤ c.toNat := from_A
  have most : c.toNat ≤ 0x5A := to_Z
  omega

/-! ### The steps leave a token as it is -/

private theorem hyphenate_eq_self {text : List Char} (none : ∀ c ∈ text, isSeparator c = false)
    (inRun : Bool) : hyphenate inRun text = text := by
  induction text generalizing inRun with
  | nil => rfl
  | cons c rest ih =>
    obtain ⟨here, none⟩ := List.forall_mem_cons.mp none
    simp [hyphenate, here, ih none]

private theorem head?_collapse (text : List Char) : (collapse text).head? = text.head? := by
  fun_induction collapse text with
  | case1 rest ih => exact ih
  | case2 => rfl
  | case3 => rfl

private theorem single_collapse (text : List Char) : ¬ ['-', '-'] <:+: collapse text := by
  fun_induction collapse text with
  | case1 rest ih => exact ih
  | case2 c rest other ih =>
    rw [List.infix_cons_iff]
    refine not_or.mpr ⟨fun double => ?_, ih⟩
    obtain ⟨rfl, next⟩ := List.cons_prefix_cons.mp double
    obtain ⟨more, collapsed⟩ := next
    -- The next hyphen was there before, and would have been collapsed with this one.
    have hyphen : rest.head? = some '-' := by rw [← head?_collapse, ← collapsed]; rfl
    obtain ⟨after, rfl⟩ := List.head?_eq_some_iff.mp hyphen
    exact other after rfl rfl
  | case3 => simp

private theorem collapse_eq_self {text : List Char} (single : ¬ ['-', '-'] <:+: text) :
    collapse text = text := by
  fun_induction collapse text with
  | case1 rest => exact absurd ⟨[], rest, rfl⟩ single
  | case2 c rest _ ih =>
    rw [ih fun double => single (double.trans (List.suffix_cons c rest).isInfix)]
  | case3 => rfl

private theorem stripHyphens_eq_self {text : List Char} (token : IsToken text) :
    stripHyphens text = text := by
  refine stripped_eq_self (fun c first => ?_) fun c last => ?_
  · rw [beq_eq_false_iff_ne]
    rintro rfl
    exact token.first first
  · rw [beq_eq_false_iff_ne]
    rintro rfl
    exact token.last last

/-- A token that is not too long is its own class. -/
theorem IsToken.sanitizeChars_eq {text : List Char} (token : IsToken text)
    (short : text.length ≤ maxLength) : sanitizeChars text = text := by
  have visible : ∀ c ∈ text, isBlank c = false := fun c member =>
    (Bool.or_eq_false_iff.mp (isSeparator_of_isClassChar (token.plain c member))).1
  have trimmed : trim text = text :=
    stripped_eq_self (fun c first => visible c (List.mem_of_mem_head? first))
      fun c last => visible c (List.mem_of_mem_getLast? last)
  have small : lower text = text := lower_eq_self fun c member => by
    have kept := token.plain c member
    have bounds := bounds_of_isClassChar kept
    exact ⟨by omega, toLower_of_isClassChar kept⟩
  have whole : hyphenate false text = text :=
    hyphenate_eq_self (fun c member => isSeparator_of_isClassChar (token.plain c member)) false
  rw [sanitizeChars, trimmed, small, whole, List.filter_eq_self.mpr token.plain,
    collapse_eq_self token.single, stripHyphens_eq_self token, List.take_of_length_le short,
    stripHyphens_eq_self token]

/-! ### Names -/

private theorem isInfix_sanitizeChars (name : List Char) : ∃ kept,
    sanitizeChars name <:+: collapse kept :=
  ⟨_, (isInfix_stripped _ _).trans ((List.take_prefix _ _).isInfix.trans (isInfix_stripped _ _))⟩

theorem isToken_sanitizeChars (name : List Char) : IsToken (sanitizeChars name) where
  plain := isClassChar_of_mem_sanitizeChars
  first hyphen := by simpa using head?_stripped '-' hyphen
  last hyphen := by simpa using getLast?_stripped '-' hyphen
  single double := by
    obtain ⟨kept, whole⟩ := isInfix_sanitizeChars name
    exact single_collapse kept (double.trans whole)

theorem length_sanitizeChars (name : List Char) : (sanitizeChars name).length ≤ maxLength :=
  (isInfix_stripped _ _).length_le.trans (List.length_take_le _ _)

theorem sanitizeChars_sanitizeChars (name : List Char) :
    sanitizeChars (sanitizeChars name) = sanitizeChars name :=
  (isToken_sanitizeChars name).sanitizeChars_eq (length_sanitizeChars name)

/-! ### Classes of nodes -/

/-- A generic name, or one with a number behind a hyphen. -/
def SaysNothing (name : String) : Prop :=
  ∃ word ∈ genericNames, name = word ∨
    ∃ digits, digits ≠ [] ∧ (∀ c ∈ digits, c.isDigit = true) ∧
      name.toList = word.toList ++ '-' :: digits

private theorem isNumberedGeneric_append {word : String} (generic : word ∈ genericNames)
    {digits : List Char} (inhabited : digits ≠ []) (all : ∀ c ∈ digits, c.isDigit = true) :
    isNumberedGeneric (word.toList ++ '-' :: digits) = true := by
  have letters : ∀ word ∈ genericNames, word.toList.all Char.isLower = true := by decide
  have hyphen : '-'.isLower = false := by decide
  have taken : (word.toList ++ '-' :: digits).takeWhile Char.isLower = word.toList := by
    rw [List.takeWhile_append_of_pos (List.all_eq_true.mp (letters word generic)),
      List.takeWhile_cons, hyphen]
    simp
  simpa [isNumberedGeneric, taken, inhabited, generic] using all

/-- A hyphen and digits behind a word are told apart from a hyphen and another text. -/
private theorem eq_of_append_hyphen {word digits front back : List Char} (unhyphenated : '-' ∉ word)
    (number : ∀ c ∈ digits, c.isDigit = true)
    (same : word ++ '-' :: digits = front ++ '-' :: back) : digits = back := by
  have notDigit : '-' ∉ digits := fun member => by simpa using number _ member
  rcases List.append_eq_append_iff.mp same with ⟨between, front_eq, rest⟩ | ⟨between, word_eq, rest⟩
  · cases between with
    | nil => simpa using rest
    | cons c between =>
      -- Another hyphen would stand among the digits.
      obtain ⟨rfl, rfl⟩ := List.cons.inj rest
      simp at notDigit
  · cases between with
    | nil => simpa using rest.symm
    | cons c between =>
      obtain ⟨rfl, -⟩ := List.cons.inj rest
      simp [word_eq] at unhyphenated

private theorem isUninformative_of_saysNothing {token : List Char}
    (nothing : SaysNothing (String.ofList token)) : isUninformative token = true := by
  obtain ⟨word, generic, rfl | ⟨digits, inhabited, number, same⟩⟩ := nothing
  · simp [isUninformative, generic]
  · rw [String.toList_ofList] at same
    rw [isUninformative, same, isNumberedGeneric_append generic inhabited number, Bool.or_true]

/-- A class says nothing only as the fallback. -/
theorem semantic_eq_of_saysNothing {name fallback : String}
    (nothing : SaysNothing (semantic name fallback)) : semantic name fallback = fallback := by
  rcases semantic_cases name fallback with same | ⟨informative, same | same⟩
  · exact same
  · rw [same] at nothing
    rw [isUninformative_of_saysNothing nothing] at informative
    contradiction
  · exfalso
    rw [same] at nothing
    obtain ⟨word, generic, here | ⟨digits, -, number, numbered⟩⟩ := nothing
    · exact absurd generic (by
        rw [← here]
        exact fun found => hyphen_notMem_generic found (by simp))
    · -- Behind the hyphen is the token, which would be a bare number.
      have whole : (fallback ++ "-" ++ String.ofList (sanitizeChars name.toList)).toList =
          fallback.toList ++ '-' :: sanitizeChars name.toList := by simp
      rw [eq_of_append_hyphen (hyphen_notMem_generic generic) number
        (numbered.symm.trans whole)] at number
      simp [isUninformative, List.all_eq_true.mpr number] at informative

theorem toList_sanitize (name : String) : (sanitize name).toList = sanitizeChars name.toList :=
  String.toList_ofList

theorem length_sanitize (name : String) :
    (sanitize name).length = (sanitizeChars name.toList).length := by
  rw [← String.length_toList, toList_sanitize]

theorem semantic_eq_of_short {name fallback : String}
    (short : (sanitize name).length < 2 ∨ ∀ c ∈ (sanitize name).toList, c.isDigit = true) :
    semantic name fallback = fallback := by
  rw [length_sanitize, toList_sanitize, ← List.all_eq_true] at short
  have nothing : isUninformative (sanitizeChars name.toList) = true := by
    rcases short with short | number
    · simp [isUninformative, short]
    · simp [isUninformative, number]
  rw [semantic, if_pos nothing]

/-- The text has a first character, which is neither a digit nor a hyphen. -/
def Leads (text : List Char) : Prop := ∃ c rest, text = c :: rest ∧ c.isDigit = false ∧ c ≠ '-'

/-- A class begins like a name where the fallback does. -/
theorem leads_semantic {name fallback : String} (leads : Leads fallback.toList) :
    Leads (semantic name fallback).toList := by
  rw [semantic]
  split
  · exact leads
  next informative =>
    have token := isToken_sanitizeChars name.toList
    split
    · obtain ⟨c, rest, same, known⟩ := leads
      exact ⟨c, rest ++ '-' :: sanitizeChars name.toList, by simp [same], known⟩
    next other =>
      rw [String.toList_ofList]
      cases chars : sanitizeChars name.toList with
      | nil => simp [chars, isUninformative] at informative
      | cons c rest =>
        rw [chars] at other token
        exact ⟨c, rest, rfl, by simpa using other, fun hyphen => token.first (by simp [hyphen])⟩

/-- A name becomes a token of at most fifty characters, and a token becomes itself. The class of a
node is the fallback where the token is too short or a number, and says nothing only as the
fallback. With a fallback of the same characters that begins with a small letter, it has these
characters too and begins with neither a digit nor a hyphen. -/
theorem names_make_tokens (name fallback : String) :
    (IsToken (sanitize name).toList ∧ (sanitize name).length ≤ 50 ∧
      sanitize (sanitize name) = sanitize name) ∧
    ((sanitize name).length < 2 ∨ (∀ c ∈ (sanitize name).toList, c.isDigit = true) →
      semantic name fallback = fallback) ∧
    (SaysNothing (semantic name fallback) → semantic name fallback = fallback) ∧
    ((∃ c ∈ fallback.toList.head?, c.isLower = true) →
      (∀ c ∈ fallback.toList, isClassChar c = true) →
        Leads (semantic name fallback).toList ∧
          ∀ c ∈ (semantic name fallback).toList, isClassChar c = true) := by
  refine ⟨⟨?_, ?_, ?_⟩, semantic_eq_of_short, semantic_eq_of_saysNothing, ?_⟩
  · rw [toList_sanitize]
    exact isToken_sanitizeChars _
  · rw [length_sanitize]
    exact length_sanitizeChars _
  · apply String.toList_injective
    rw [toList_sanitize, toList_sanitize, sanitizeChars_sanitizeChars]
  · rintro ⟨c, first, small⟩ plain
    refine ⟨leads_semantic ?_, isClassChar_of_mem_semantic plain⟩
    obtain ⟨rest, same⟩ := List.head?_eq_some_iff.mp first
    exact ⟨c, rest, same, isDigit_of_isLower small, by rintro rfl; contradiction⟩

/-- A name in which every step has something to do, and one that says nothing. -/
theorem heroName_makes_token :
    semantic " 3D (Hero) -- Übersicht/ " "shape" = "shape-3d-hero-bersicht" ∧
      Leads (semantic " 3D (Hero) -- Übersicht/ " "shape").toList ∧
      (∀ c ∈ (semantic " 3D (Hero) -- Übersicht/ " "shape").toList, isClassChar c = true) ∧
      semantic "(42)" "shape" = "shape" := by
  obtain ⟨leads, plain⟩ := (names_make_tokens " 3D (Hero) -- Übersicht/ " "shape").2.2.2
    ⟨'s', by simp, by decide⟩ (List.all_eq_true.mp (by decide))
  exact ⟨by decide +kernel, leads, plain, (names_make_tokens "(42)" "shape").2.1
    (.inr (List.all_eq_true.mp (by decide +kernel)))⟩

end Artboard.Classes
