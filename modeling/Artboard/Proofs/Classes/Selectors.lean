import Artboard.Proofs.Classes.Size

/-!
# Selectors of utility classes

In the selector of a class every character that would end its name is behind a
backslash, and without the backslashes it is the name again. The rule of a class that
was made from a declaration or a size selects just this class and declares just what
the class was made from.
-/
namespace Artboard.Classes

open Text

/-! ### Escapes -/

/-- A visible character below `0x80` that the name of a class cannot hold as it is. -/
def isSpecial (c : Char) : Bool :=
  decide (0x21 ≤ c.toNat ∧ c.toNat ≤ 0x7E) && !(c.isAlphanum || c = '-' || c = '_')

/-- The text without the backslashes of its escapes. -/
def unescape : List Char → List Char
  | '\\' :: c :: rest => c :: unescape rest
  | c :: rest => c :: unescape rest
  | [] => []

/-- Every special character is behind a backslash, and no other character is. -/
inductive Escaped : List Char → Prop
  | nil : Escaped []
  | plain {c : Char} {rest : List Char} : isSpecial c = false → Escaped rest → Escaped (c :: rest)
  | escape {c : Char} {rest : List Char} : isSpecial c = true → Escaped rest →
      Escaped ('\\' :: c :: rest)

theorem contains_selectorSpecials (c : Char) : selectorSpecials.contains c = isSpecial c := by
  have ascii : ∀ code < 0x80, selectorSpecials.contains (Char.ofNat code) =
      isSpecial (Char.ofNat code) := by decide +kernel
  by_cases low : c.toNat < 0x80
  · simpa using ascii c.toNat low
  · have listed : ∀ mark ∈ selectorSpecials, mark.toNat < 0x80 :=
      List.forall_iff_forall_mem.mp (by decide +kernel)
    have unlisted : selectorSpecials.contains c = false := by
      rw [Bool.eq_false_iff]
      exact fun found => low (listed c (List.contains_iff_mem.mp found))
    have plain : isSpecial c = false := by
      simp only [isSpecial, Bool.and_eq_false_iff, decide_eq_false_iff_not]
      omega
    rw [unlisted, plain]

private theorem escapeSelectorChars_cons (c : Char) (rest : List Char) :
    escapeSelectorChars (c :: rest) =
      (if isSpecial c then ['\\', c] else [c]) ++ escapeSelectorChars rest := by
  rw [escapeSelectorChars, List.flatMap_cons, contains_selectorSpecials]
  rfl

private theorem unescape_cons {c : Char} (other : c ≠ '\\') (rest : List Char) :
    unescape (c :: rest) = c :: unescape rest := by
  rw [unescape]
  rintro _ _ rfl
  exact absurd rfl other

theorem unescape_escapeSelectorChars (name : List Char) :
    unescape (escapeSelectorChars name) = name := by
  induction name with
  | nil => rfl
  | cons c rest ih =>
    rw [escapeSelectorChars_cons]
    split
    · rw [List.cons_append, List.singleton_append, unescape, ih]
    next plain =>
      have other : c ≠ '\\' := by
        rintro rfl
        exact plain (by decide)
      rw [List.singleton_append, unescape_cons other, ih]

theorem escaped_escapeSelectorChars (name : List Char) : Escaped (escapeSelectorChars name) := by
  induction name with
  | nil => exact .nil
  | cons c rest ih =>
    rw [escapeSelectorChars_cons]
    split
    next special => exact .escape special ih
    next plain => exact .plain (by simpa using plain) ih

/-- A blank ends every escape before it. -/
private theorem unescape_append_blank (text rest : List Char) :
    unescape (text ++ ' ' :: rest) = unescape (text ++ [' ']) ++ unescape rest := by
  fun_induction unescape text with
  | case1 c text ih =>
    rw [List.cons_append, List.cons_append, unescape, ih]
    rfl
  | case2 c text other ih =>
    cases text with
    | nil =>
      by_cases backslash : c = '\\'
      · subst backslash
        rfl
      · rw [List.singleton_append, List.singleton_append, unescape_cons backslash,
          unescape_cons backslash]
        rfl
    | cons next text =>
      have backslash : c ≠ '\\' := fun same => other next text same rfl
      simp only [List.cons_append] at ih ⊢
      rw [unescape_cons backslash, unescape_cons backslash, ih, List.cons_append]
  | case3 => rfl

private theorem unescape_eq_self {text : List Char} (unescaped : '\\' ∉ text) :
    unescape text = text := by
  induction text with
  | nil => rfl
  | cons c rest ih =>
    obtain ⟨other, later⟩ := not_or.mp (List.mem_cons.not.mp unescaped)
    rw [unescape_cons (Ne.symm other), ih later]

/-! ### Rules -/

/-- What stands in front of a class in its selector. -/
def selectorStart (scope : String) : String := if scope.isEmpty then "." else scope ++ " ."

theorem classSelector_eq (scope name : String) :
    classSelector scope name = selectorStart scope ++ escapeSelector name := by
  rw [classSelector, selectorStart]
  split <;> rfl

/-- The scope and the class are read apart. -/
private theorem unescape_selectorStart (scope : String) (rest : List Char) :
    unescape ((selectorStart scope).toList ++ rest) =
      unescape (selectorStart scope).toList ++ unescape rest := by
  rw [selectorStart]
  split
  · rfl
  · have start : (scope ++ " .").toList = scope.toList ++ ' ' :: ['.'] := by simp
    rw [start, List.append_assoc, List.cons_append, unescape_append_blank,
      unescape_append_blank scope.toList ['.'], List.append_assoc]
    rfl

private theorem backslash_notMem_selectorStart {scope : String} (plain : '\\' ∉ scope.toList) :
    '\\' ∉ (selectorStart scope).toList := by
  rw [selectorStart]
  split
  · decide
  · simpa using plain

/-- The class has a rule in the scope with this declaration alone. The selector is the scope, a dot
and an escaped text, which is the class without its escapes. -/
def HasRule (scope name : String) (declaration : Css.Declaration) : Prop :=
  ∃ escaped, utilityRule name scope = some (selectorStart scope ++ escaped ++
      "\x7b" ++ declaration.1 ++ ":" ++ declaration.2 ++ ";\x7d") ∧
    Escaped escaped.toList ∧ unescape escaped.toList = name.toList ∧
    unescape (selectorStart scope ++ escaped).toList =
      unescape (selectorStart scope).toList ++ name.toList ∧
    ('\\' ∉ scope.toList →
      unescape (selectorStart scope ++ escaped).toList = (selectorStart scope ++ name).toList)

theorem toList_escapeSelector (name : String) :
    (escapeSelector name).toList = escapeSelectorChars name.toList := String.toList_ofList

/-- A class that stands for a declaration has the rule of this declaration. -/
theorem hasRule_of_declarationOf {name : String} {declaration : Css.Declaration}
    (known : declarationOf name = some declaration) (scope : String) :
    HasRule scope name declaration := by
  have written : utilityRule name scope = some (selectorStart scope ++ escapeSelector name ++
      "\x7b" ++ declaration.1 ++ ":" ++ declaration.2 ++ ";\x7d") := by
    rw [utilityRule, known, Option.map_some, classSelector_eq, Css.rule]
    apply congrArg some
    apply String.toList_injective
    simp [Css.Declarations.serialize, Css.Declarations.serializeDeclaration,
      Css.Declarations.toList_ofList, Css.names, String.join]
  have read := unescape_escapeSelectorChars name.toList
  have whole : unescape (selectorStart scope ++ escapeSelector name).toList =
      unescape (selectorStart scope).toList ++ name.toList := by
    rw [String.toList_append, unescape_selectorStart, toList_escapeSelector, read]
  refine ⟨escapeSelector name, written, ?_, ?_, whole, fun plain => ?_⟩
  · rw [toList_escapeSelector]
    exact escaped_escapeSelectorChars _
  · rw [toList_escapeSelector, read]
  · rw [whole, unescape_eq_self (backslash_notMem_selectorStart plain), String.toList_append]

/-- One class after the other has the rule of the declaration that it was made from. -/
private theorem forall₂_hasRule {declarations : List Css.Declaration} (scope : String)
    (unbroken : ∀ declaration ∈ declarations, '\n' ∉ declaration.2.toList) :
    List.Forall₂ (HasRule scope) (declarations.filterMap utilityClass?)
      (declarations.filter fun declaration => (utilityClass? declaration).isSome) := by
  induction declarations with
  | nil => exact .nil
  | cons first rest ih =>
    obtain ⟨here, later⟩ := List.forall_mem_cons.mp unbroken
    cases classed : utilityClass? first with
    | none => simpa [classed] using ih later
    | some name =>
      have known := declarationOf_of_isMeasure
        (fun _ pixels => isMeasure_of_isPixelLength pixels here) classed
      simpa [classed] using ⟨hasRule_of_declarationOf known scope, ih later⟩

/-- What is not left has a class. -/
private theorem filter_notMem_splitUtilities (bag : Css.Declarations) :
    (bag.toList.filter fun declaration => decide (declaration ∉ (splitUtilities bag).2.toList)) =
      bag.toList.filter fun declaration => (utilityClass? declaration).isSome := by
  refine List.filter_congr fun declaration member => ?_
  rw [toList_splitUtilities]
  cases classed : utilityClass? declaration <;> simp [member, classed]

private theorem hasRule_recurring {α : Type} [Scalar α] {counts : Counts}
    {property start name : String} (known : (property, start) ∈ lengthUtilities)
    {symbolic : Option String} {length : α}
    (classed : SizeFrequency.recurring counts start (SizeFrequency.numericLength symbolic length) =
      some name) (scope : String) : HasRule scope name (property, Css.px length) := by
  obtain ⟨number, written, counted⟩ := Option.bind_eq_some_iff.mp classed
  rw [SizeFrequency.numericLength] at written
  split at written
  · contradiction
  · cases written
    split at counted
    · cases counted
      exact hasRule_of_declarationOf (declarationOf_pixelClass known length) scope
    · contradiction

/-- A selector escapes every special character of a class, and nothing else, so that the class is
read back from it. The classes that a bag without line breaks is split into are those of the
declarations that are not left, one for each in their order, and each has the rule of its
declaration; so has each class of a width or a height. -/
theorem utility_rules_select_classes {α : Type} [Scalar α] (scope : String) :
    (∀ name : String, unescape (escapeSelector name).toList = name.toList ∧
      Escaped (escapeSelector name).toList) ∧
    (∀ bag : Css.Declarations, (∀ declaration ∈ bag.toList, '\n' ∉ declaration.2.toList) →
      List.Forall₂ (HasRule scope) (splitUtilities bag).1
        (bag.toList.filter fun declaration =>
          decide (declaration ∉ (splitUtilities bag).2.toList))) ∧
    ∀ (sizes : SizeFrequency) (layout : Layout α) (name : String),
      (sizes.widthClass layout = some name → HasRule scope name ("width", Css.px layout.width)) ∧
      (sizes.heightClass layout = some name →
        HasRule scope name ("height", Css.px layout.height)) := by
  refine ⟨fun name => ?_, fun bag unbroken => ?_, fun sizes layout name => ⟨?_, ?_⟩⟩
  · rw [toList_escapeSelector]
    exact ⟨unescape_escapeSelectorChars _, escaped_escapeSelectorChars _⟩
  · rw [filter_notMem_splitUtilities]
    exact forall₂_hasRule scope unbroken
  · exact fun classed => hasRule_recurring (by simp [lengthUtilities]) classed scope
  · exact fun classed => hasRule_recurring (by simp [lengthUtilities]) classed scope

/-- A bag with gaps in several scripts, and with declarations that no class stands for. -/
def spacedBag : Css.Declarations :=
  .ofList [("display", "flex"), ("gap", "1.5px"), ("opacity", "0.5"), ("row-gap", "٣.٢px"),
    ("column-gap", "1e2px")]

/-- A layout with a negative width that is not whole. -/
def narrowLayout : Layout Rat := { Layout.plain with width := -5 / 2 }

theorem spacedBag_has_rules :
    utilityRule "gap-[1.5px]" "[data-page]" =
        some "[data-page] .gap-\\[1\\.5px\\]\x7bgap:1.5px;\x7d" ∧
      HasRule "[data-page]" "flex" ("display", "flex") ∧
      HasRule "[data-page]" "gap-[1.5px]" ("gap", "1.5px") ∧
      HasRule "[data-page]" "gap-y-[٣.٢px]" ("row-gap", "٣.٢px") ∧
      HasRule "[data-page]" "w-[-2.5px]" ("width", Css.px narrowLayout.width) := by
  obtain ⟨-, bags, sizes⟩ := utility_rules_select_classes (α := Rat) "[data-page]"
  have classes : (splitUtilities spacedBag).1 = ["flex", "gap-[1.5px]", "gap-y-[٣.٢px]"] := by
    decide +kernel
  have taken : (spacedBag.toList.filter fun declaration =>
      decide (declaration ∉ (splitUtilities spacedBag).2.toList)) =
        [("display", "flex"), ("gap", "1.5px"), ("row-gap", "٣.٢px")] := by decide +kernel
  have rules := bags spacedBag (by decide +kernel)
  rw [classes, taken] at rules
  simp only [List.forall₂_cons, List.forall₂_nil_left_iff, and_true] at rules
  exact ⟨by decide +kernel, rules.1, rules.2.1, rules.2.2,
    (sizes (.ofLayouts [narrowLayout, narrowLayout]) narrowLayout _).1 (by decide +kernel)⟩

end Artboard.Classes
