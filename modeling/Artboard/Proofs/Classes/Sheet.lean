import Artboard.Proofs.Classes.Utility

/-!
# The stylesheet of utility classes

The stylesheet depends on which classes are in use and on nothing else. Its rules
are sorted, and so that of a `gap` stands before those of a `row-gap` and of a
`column-gap`: a bracket comes before a letter.
-/
namespace Artboard.Classes

open Text

theorem not_measuredBy_simple (start : String) {name : String}
    (simple : name ∈ simpleUtilities.map Prod.snd) : ¬ MeasuredBy start name := by
  rintro ⟨rest, whole⟩
  obtain ⟨entry, member, rfl⟩ := List.mem_map.mp simple
  apply bracket_notMem_simple entry member
  rw [← whole]
  simp

/-- A class that declares a gap is named after it. -/
theorem measuredBy_of_declarationOf {name : String} {declaration : Css.Declaration}
    (known : declarationOf name = some declaration) (gap : declaration.1 ∈ gapProperties) :
    ∃ start, (declaration.1, start) ∈ lengthUtilities ∧ MeasuredBy start name := by
  have simple : ∀ entry ∈ simpleUtilities, entry.1.1 ∉ gapProperties := by decide +kernel
  exact (declarationOf_cases known).resolve_left fun member => simple _ member gap

/-- A gap in pixels has a class unless it is negative. -/
theorem isSome_utilityClass? {α : Type} [Scalar α] {declaration : Css.Declaration} {length : α}
    (gap : declaration.1 ∈ gapProperties) (pixels : declaration.2 = Css.px length)
    (valid : declaration.2.toList.head? ≠ some '-') : (utilityClass? declaration).isSome = true := by
  have starts : ∀ name ∈ gapProperties, (lengthUtilities.lookup name).isSome = true := by decide
  have stop : ∀ c ∈ (['p', 'x'] : List Char).head?, isDecimalDigit c = false ∧ c ≠ '.' := by
    rintro c ⟨⟩
    decide
  have measured : isPixelLength declaration.2.toList = true := by
    rw [pixels] at valid ⊢
    obtain ⟨numeral, positive | negative⟩ := px_cases length
    · rw [isPixelLength, positive, spanNumber_numeral numeral stop]
      rfl
    · simp [negative] at valid
  rw [utilityClass?]
  split
  · rfl
  · rw [if_pos (by simp [gap, measured]), Option.isSome_map]
    exact starts _ gap

namespace UtilitySet

variable {used other : UtilitySet}

/-- The classes of elements that are drawn one after the other. -/
def ofGroups (groups : List (List String)) : UtilitySet := groups.foldl add empty

private theorem foldl_add (groups : List (List String)) (used : UtilitySet)
    (distinct : used.names.Nodup) :
    (groups.foldl add used).names.Nodup ∧
      ∀ name, name ∈ (groups.foldl add used).names ↔ name ∈ used.names ∨ name ∈ groups.flatten := by
  induction groups generalizing used with
  | nil => exact ⟨distinct, by simp⟩
  | cons group rest ih =>
    obtain ⟨nodup, names⟩ := ih _ (nodup_names_add distinct group)
    refine ⟨nodup, fun name => ?_⟩
    rw [List.foldl_cons, names, mem_names_add, List.flatten_cons, List.mem_append, or_assoc]

theorem nodup_names_ofGroups (groups : List (List String)) : (ofGroups groups).names.Nodup :=
  (foldl_add groups empty List.nodup_nil).1

theorem mem_names_ofGroups {groups : List (List String)} {name : String} :
    name ∈ (ofGroups groups).names ↔ name ∈ groups.flatten := by
  have names := (foldl_add groups empty List.nodup_nil).2 name
  rw [ofGroups, names]
  simp [empty]

private theorem pairwise_sorted (names : List String) :
    (names.mergeSort fun first second => decide (first ≤ second)).Pairwise
      fun first second => first ≤ second := by
  have sorted : (names.mergeSort fun first second => decide (first ≤ second)).Pairwise
      fun first second => decide (first ≤ second) = true :=
    List.pairwise_mergeSort
      (fun first second third less more => by
        simpa using String.le_trans (by simpa using less) (by simpa using more))
      (fun first second => by simpa using String.le_total first second) names
  simpa using sorted

/-- The order of the rules depends on the classes in use alone. -/
theorem ordered_congr (distinct : used.names.Nodup) (nodup : other.names.Nodup)
    (same : ∀ name, name ∈ used.names ↔ name ∈ other.names) : used.ordered = other.ordered := by
  have perm : used.names.Perm other.names := (List.perm_ext_iff_of_nodup distinct nodup).mpr same
  have simple : used.contains = other.contains := by
    funext name
    rw [contains, contains, perm.contains_eq]
  have sorted {names others : List String} (perm : names.Perm others) :
      (names.mergeSort fun first second => decide (first ≤ second)) =
        others.mergeSort fun first second => decide (first ≤ second) :=
    List.Perm.eq_of_pairwise (fun _ _ _ _ => String.le_antisymm) (pairwise_sorted names)
      (pairwise_sorted others) (((List.mergeSort_perm names _).trans perm).trans
        (List.mergeSort_perm others _).symm)
  rw [ordered, ordered, simple, sorted (perm.filter _)]

/-- In the order of code points a bracket comes before a letter. -/
private theorem not_le_of_measuredBy {earlier later : String}
    (longhand : MeasuredBy "gap-x" earlier ∨ MeasuredBy "gap-y" earlier)
    (shorthand : MeasuredBy "gap" later) : ¬ earlier ≤ later := by
  obtain ⟨rest, whole⟩ := shorthand
  rw [String.not_le, String.lt_iff_toList_lt, ← whole]
  rcases longhand with ⟨more, long⟩ | ⟨more, long⟩
  all_goals
    rw [← long]
    simp [List.cons_lt_cons_iff]

/-- The rule of a shorthand stands before those of its longhands. -/
theorem pairwise_ordered (used : UtilitySet) : used.ordered.Pairwise fun earlier later =>
    MeasuredBy "gap-x" earlier ∨ MeasuredBy "gap-y" earlier → ¬ MeasuredBy "gap" later := by
  have simple {name : String} (member : name ∈ (simpleUtilities.map Prod.snd).filter used.contains)
      (start : String) : ¬ MeasuredBy start name :=
    not_measuredBy_simple start (List.mem_of_mem_filter member)
  rw [ordered, List.pairwise_append]
  refine ⟨List.pairwise_of_forall_mem_list ?_, ?_, ?_⟩
  · intro earlier _ later member _
    exact simple member "gap"
  · exact (pairwise_sorted _).imp fun le longhand shorthand =>
      not_le_of_measuredBy longhand shorthand le
  · intro earlier member later _ longhand
    exact absurd longhand (not_or.mpr ⟨simple member "gap-x", simple member "gap-y"⟩)

/-! ### The rules -/

/-- The stylesheet has one rule for each of these classes, in this order: each class in the groups
that stands for a declaration, once. No rule of a longhand stands before that of a shorthand. -/
structure SheetOf (scope : String) (groups : List (List String)) (names : List String)
    (css : String) : Prop where
  text : ∃ rules, (names.map fun name => utilityRule name scope) = rules.map some ∧
    css = String.intercalate "\n" rules
  distinct : names.Nodup
  known : ∀ name, name ∈ names ↔ name ∈ groups.flatten ∧ (utilityRule name scope).isSome = true
  shorthandFirst : names.Pairwise fun earlier later =>
    MeasuredBy "gap-x" earlier ∨ MeasuredBy "gap-y" earlier → ¬ MeasuredBy "gap" later

private theorem css_eq (used : UtilitySet) (scope : String) : ∃ rules,
    ((used.ordered.filter fun name => (utilityRule name scope).isSome).map fun name =>
      utilityRule name scope) = rules.map some ∧ used.css scope = String.intercalate "\n" rules := by
  refine ⟨used.ordered.filterMap fun name => utilityRule name scope, ?_, rfl⟩
  induction used.ordered with
  | nil => rfl
  | cons name rest ih =>
    cases rule : utilityRule name scope with
    | none => simpa [rule] using ih
    | some text => simpa [rule] using ih

theorem exists_sheetOf (scope : String) (groups : List (List String)) :
    ∃ names, SheetOf scope groups names ((ofGroups groups).css scope) := by
  refine ⟨_, css_eq _ scope, (nodup_ordered (nodup_names_ofGroups groups)).filter _, fun name => ?_,
    (pairwise_ordered _).sublist List.filter_sublist⟩
  rw [List.mem_filter, mem_ordered, mem_names_ofGroups]

/-- Groups of the same classes have the same stylesheet, however often and in whatever order they
name them. -/
theorem css_congr (scope : String) {groups others : List (List String)}
    (same : ∀ name, name ∈ groups.flatten ↔ name ∈ others.flatten) :
    (ofGroups groups).css scope = (ofGroups others).css scope := by
  rw [css, css, ordered_congr (nodup_names_ofGroups groups) (nodup_names_ofGroups others)]
  intro name
  rw [mem_names_ofGroups, mem_names_ofGroups, same]

end UtilitySet

end Artboard.Classes
