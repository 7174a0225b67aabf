import Artboard.Proofs.Classes.Shared
import Artboard.Proofs.Classes.Utility
import Artboard.Render.Markup

/-!
# Rules of classes

The stylesheet of the content, rule by rule: first those of pseudo-elements, then
one for each utility class in use and one for each shared class.
-/
namespace Artboard.Render

open Classes

/-- The rule of a class. -/
structure ClassRule where
  name : String
  selector : String
  declarations : Css.Declarations

namespace ClassRule

def text (rule : ClassRule) : String := Css.rule rule.selector rule.declarations

/-- What the rules declare for a class. -/
def declared (rules : List ClassRule) (name : String) : List Css.Declaration :=
  (rules.filter fun rule => rule.name == name).flatMap fun rule => rule.declarations.toList

end ClassRule

/-- The rules of the utility classes in use. -/
def utilityRules (used : UtilitySet) : List ClassRule :=
  used.ordered.filterMap fun name =>
    (declarationOf name).map fun declaration =>
      ⟨name, classSelector "" name, .ofList [declaration]⟩

/-- The rules of shared classes. -/
def sharedRules (table : SharedTable) : List ClassRule :=
  table.classes.map fun shared =>
    ⟨shared.name, table.scope ++ " ." ++ shared.name, .ofList shared.declarations.sorted⟩

def classRules (tables : Tables) (used : UtilitySet) : List ClassRule :=
  utilityRules used ++ sharedRules tables.shared

/-! ### Declarations of classes -/

namespace ClassRule

variable {rules : List ClassRule} {name : String}

theorem declared_append (others : List ClassRule) :
    declared (rules ++ others) name = declared rules name ++ declared others name := by
  simp only [declared, List.filter_append, List.flatMap_append]

theorem declared_eq_nil (absent : ∀ rule ∈ rules, rule.name ≠ name) : declared rules name = [] := by
  have none : (rules.filter fun rule => rule.name == name) = [] := by
    rw [List.filter_eq_nil_iff]
    simpa using absent
  rw [declared, none, List.flatMap_nil]

/-- A rule whose name no other rule has is all that is declared for the name. -/
theorem declared_eq {rule : ClassRule} (distinct : (rules.map (·.name)).Nodup)
    (member : rule ∈ rules) : declared rules rule.name = rule.declarations.toList := by
  induction rules with
  | nil => cases member
  | cons first rest ih =>
    rw [List.map_cons, List.nodup_cons] at distinct
    rw [← List.singleton_append, declared_append]
    rcases List.mem_cons.mp member with rfl | member
    · have others : ∀ other ∈ rest, other.name ≠ rule.name := fun other here same =>
        distinct.1 (same ▸ List.mem_map_of_mem here)
      rw [declared_eq_nil others]
      simp [declared]
    · have differs : first.name ≠ rule.name := fun same =>
        distinct.1 (same ▸ List.mem_map_of_mem member)
      rw [declared_eq_nil (by simpa using differs), ih distinct.2 member, List.nil_append]

theorem mem_declared {declaration : Css.Declaration} : declaration ∈ declared rules name ↔
    ∃ rule ∈ rules, rule.name = name ∧ declaration ∈ rule.declarations.toList := by
  simp only [declared, List.mem_flatMap, List.mem_filter, beq_iff_eq, and_assoc]

end ClassRule

private theorem names_utilityRules (used : UtilitySet) :
    (utilityRules used).map (·.name) =
      used.ordered.filter fun name => (declarationOf name).isSome := by
  rw [utilityRules, List.map_filterMap]
  induction used.ordered with
  | nil => rfl
  | cons name rest ih => cases known : declarationOf name <;> simpa [known] using ih

/-- A utility class in use has its rule. -/
theorem mem_utilityRules {used : UtilitySet} {name : String} {declaration : Css.Declaration}
    (member : name ∈ used.names) (known : declarationOf name = some declaration) :
    ⟨name, classSelector "" name, .ofList [declaration]⟩ ∈ utilityRules used :=
  List.mem_filterMap.mpr ⟨name, UtilitySet.mem_ordered.mpr member, by simp [known]⟩

theorem declared_utilityRules {used : UtilitySet} (distinct : used.names.Nodup) {name : String}
    {declaration : Css.Declaration} (member : name ∈ used.names)
    (known : declarationOf name = some declaration) :
    ClassRule.declared (utilityRules used) name = [declaration] := by
  have names : ((utilityRules used).map (·.name)).Nodup := by
    rw [names_utilityRules]
    exact (UtilitySet.nodup_ordered distinct).filter _
  rw [ClassRule.declared_eq names (mem_utilityRules member known)]
  exact Css.Declarations.toList_ofList (by simp [Css.names])

private theorem toList_sorted (bag : Css.Declarations) :
    (Css.Declarations.ofList bag.sorted).toList = bag.sorted :=
  Css.Declarations.toList_ofList
    (((List.mergeSort_perm _ _).map Prod.fst).nodup_iff.mpr bag.distinct)

/-- Where no other class has the name, the rule of a shared class is all that is declared. -/
theorem declared_sharedRules {table : SharedTable} (distinct : (table.classes.map (·.name)).Nodup)
    {shared : SharedClass} (member : shared ∈ table.classes) :
    (ClassRule.declared (sharedRules table) shared.name).Perm shared.declarations.toList := by
  have names : ((sharedRules table).map (·.name)).Nodup := by
    simpa [sharedRules, Function.comp_def] using distinct
  have rule := ClassRule.declared_eq names (List.mem_map_of_mem member)
  rw [rule, toList_sorted]
  exact List.mergeSort_perm _ _

theorem mem_declared_sharedRules {table : SharedTable} {name : String}
    {declaration : Css.Declaration}
    (member : declaration ∈ ClassRule.declared (sharedRules table) name) :
    ∃ shared ∈ table.classes, shared.name = name ∧ declaration ∈ shared.declarations.toList := by
  obtain ⟨rule, known, named, here⟩ := ClassRule.mem_declared.mp member
  obtain ⟨shared, counted, rfl⟩ := List.mem_map.mp known
  rw [toList_sorted] at here
  exact ⟨shared, counted, named, List.mem_mergeSort.mp here⟩

/-- Every class of the table is named as shared classes are. -/
def NamedShared (table : SharedTable) : Prop :=
  ∀ shared ∈ table.classes, ∃ key, shared.name = sharedName key

variable {tables : Tables} {used : UtilitySet}

/-- A utility class in use declares what it stands for, and no shared class has its name. -/
theorem declared_utility (named : NamedShared tables.shared) (distinct : used.names.Nodup)
    {name : String} {declaration : Css.Declaration} (member : name ∈ used.names)
    (known : declarationOf name = some declaration) :
    ClassRule.declared (classRules tables used) name = [declaration] := by
  have other : ∀ rule ∈ sharedRules tables.shared, rule.name ≠ name := by
    rintro rule listed rfl
    obtain ⟨shared, counted, rfl⟩ := List.mem_map.mp listed
    obtain ⟨key, same⟩ := named shared counted
    apply not_prefix_of_declarationOf known
    dsimp only
    rw [same]
    exact prefix_sharedName key
  rw [classRules, ClassRule.declared_append, ClassRule.declared_eq_nil other, List.append_nil,
    declared_utilityRules distinct member known]

/-- A shared class is no utility class. -/
theorem utilityRules_ne_shared (named : NamedShared tables.shared) {shared : SharedClass}
    (member : shared ∈ tables.shared.classes) :
    ∀ rule ∈ utilityRules used, rule.name ≠ shared.name := by
  intro rule listed same
  obtain ⟨name, -, made⟩ := List.mem_filterMap.mp listed
  obtain ⟨declaration, known, rfl⟩ := Option.map_eq_some_iff.mp made
  obtain ⟨key, spelled⟩ := named shared member
  apply not_prefix_of_declarationOf known
  dsimp only at same
  rw [same, spelled]
  exact prefix_sharedName key

theorem declared_shared (named : NamedShared tables.shared) {shared : SharedClass}
    (member : shared ∈ tables.shared.classes) :
    ClassRule.declared (classRules tables used) shared.name =
      ClassRule.declared (sharedRules tables.shared) shared.name := by
  rw [classRules, ClassRule.declared_append,
    ClassRule.declared_eq_nil (utilityRules_ne_shared named member), List.nil_append]

/-! ### The text of the rules -/

private theorem css_utilities (used : UtilitySet) :
    used.css "" = String.intercalate "\n" ((utilityRules used).map ClassRule.text) := by
  rw [UtilitySet.css, utilityRules, List.map_filterMap]
  simp only [Option.map_map]
  rfl

private theorem css_shared (table : SharedTable) :
    table.css = String.intercalate "\n" ((sharedRules table).map ClassRule.text) := by
  rw [SharedTable.css, sharedRules, List.map_map]
  rfl

private theorem rule_ne_empty (selector : String) (bag : Css.Declarations) :
    Css.rule selector bag ≠ "" := by
  intro blank
  have chars := congrArg String.toList blank
  simp [Css.rule] at chars

private theorem intercalate_eq_empty_iff {texts : List String}
    (inhabited : ∀ text ∈ texts, text ≠ "") : String.intercalate "\n" texts = "" ↔ texts = [] := by
  cases texts with
  | nil => simp
  | cons text rest =>
    have first := inhabited text (.head _)
    refine iff_of_false (fun blank => first ?_) (by simp)
    cases rest with
    | nil => simpa using blank
    | cons next rest =>
      rw [String.intercalate_cons_cons] at blank
      have chars := congrArg String.toList blank
      simp at chars

/-- Parts that are joined from lines are joined line by line, and parts without lines drop out. -/
private theorem joinGiven_intercalate (groups : List (List String))
    (inhabited : ∀ texts ∈ groups, ∀ text ∈ texts, text ≠ "") :
    joinGiven "\n" (groups.map (String.intercalate "\n")) =
      String.intercalate "\n" groups.flatten := by
  -- Rules are never blank, so a part is blank only if it has no rules.
  have blank_iff (texts : List String) (member : texts ∈ groups) :=
    intercalate_eq_empty_iff (inhabited texts member)
  clear inhabited
  rw [joinGiven]
  induction groups with
  | nil => rfl
  | cons texts rest ih =>
    obtain ⟨first, others⟩ := List.forall_mem_cons.mp blank_iff
    have joined := ih others
    rw [List.map_cons, List.flatten_cons, List.filter_cons]
    by_cases blank : texts = []
    · simpa [blank] using joined
    · have given : (!(String.intercalate "\n" texts).isEmpty) = true := by
        simpa using mt first.mp blank
      rw [if_pos given]
      by_cases last : rest.flatten = []
      -- The last part with lines stands without a separator behind it.
      · have dropped : ((rest.map (String.intercalate "\n")).filter fun part => !part.isEmpty) =
            [] := by
          rw [List.filter_eq_nil_iff]
          intro part member
          obtain ⟨texts, here, rfl⟩ := List.mem_map.mp member
          simp [List.flatten_eq_nil_iff.mp last texts here]
        rw [dropped, last, String.intercalate_singleton, List.append_nil]
      · have more : ((rest.map (String.intercalate "\n")).filter fun part => !part.isEmpty) ≠
            [] := by
          intro dropped
          apply last
          rw [List.flatten_eq_nil_iff]
          intro texts member
          refine (others texts member).mp ?_
          simpa using List.filter_eq_nil_iff.mp dropped _ (List.mem_map_of_mem member)
        rw [String.intercalate_cons_of_ne_nil more, joined,
          String.intercalate_append_of_ne_nil blank last]

variable {α : Type}

/-- The stylesheet of the content is made of the rules of pseudo-elements and of classes. -/
theorem contentCss_eq (scene : CompiledScene α)
    (content : tables.mode = .content) :
    contentCss scene tables used = String.intercalate "\n"
      (scene.rules.texts ++ (classRules tables used).map ClassRule.text) := by
  have joined := joinGiven_intercalate
    [scene.rules.texts, (utilityRules used).map ClassRule.text,
      (sharedRules tables.shared).map ClassRule.text] (by
    simp only [List.forall_mem_cons, PseudoRules.texts, List.forall_mem_map]
    exact ⟨fun _ _ => rule_ne_empty _ _, fun _ _ => rule_ne_empty _ _,
      fun _ _ => rule_ne_empty _ _, by simp⟩)
  rw [contentCss, content, css_utilities, css_shared, PseudoRules.css]
  dsimp only
  rw [classRules, List.map_append]
  simpa using joined

end Artboard.Render
