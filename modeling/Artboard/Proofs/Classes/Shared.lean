import Artboard.Classes.Shared
import Artboard.Proofs.Css.Bag
import Mathlib.Data.List.Nodup

/-!
# Tables of shared classes

Every shared class is made from the pattern of one of the counted boxes, and no
two have the same key.
-/
namespace Artboard.Classes

/-- The class is named and keyed by its pattern. -/
structure SharedClass.MadeFrom (shared : SharedClass) (found : Css.Declarations) : Prop where
  name : shared.name = sharedName found.stableKey
  key : shared.key = found.stableKey
  declarations : shared.declarations = found

/-- Different patterns of the boxes have different names. -/
def PatternsApart (boxes : List Css.Declarations) : Prop :=
  ∀ first ∈ patterns boxes, ∀ second ∈ patterns boxes,
    sharedName first.stableKey = sharedName second.stableKey →
      first.toList.Perm second.toList

instance (boxes : List Css.Declarations) : Decidable (PatternsApart boxes) :=
  inferInstanceAs (Decidable (∀ first ∈ patterns boxes, ∀ second ∈ patterns boxes, _ → _))

/-- A bag is its pattern and what is left without it. -/
theorem perm_pattern (bag : Css.Declarations) :
    ((bag.without sharedProperties).toList ++ (pattern bag).toList).Perm bag.toList :=
  List.perm_append_comm.trans (List.filter_append_perm
    (fun declaration : Css.Declaration => sharedProperties.contains declaration.1) bag.toList)

namespace SharedTable

private theorem mem_keys_count {found : Css.Declarations} {classes : List SharedClass}
    {key : String} :
    key ∈ (count found classes).map (·.key) ↔
      key = found.stableKey ∨ key ∈ classes.map (·.key) := by
  induction classes with
  | nil => simp [count]
  | cons first rest ih =>
    rw [count]
    split
    next same => grind
    next => grind

private theorem nodup_keys_count {found : Css.Declarations} {classes : List SharedClass}
    (distinct : (classes.map (·.key)).Nodup) : ((count found classes).map (·.key)).Nodup := by
  induction classes with
  | nil => simp [count]
  | cons first rest ih =>
    rw [List.map_cons, List.nodup_cons] at distinct
    rw [count]
    split
    next => exact List.nodup_cons.mpr distinct
    next differs =>
      refine List.nodup_cons.mpr ⟨fun member => ?_, ih distinct.2⟩
      exact (mem_keys_count.mp member).elim differs distinct.1

private theorem madeFrom_count {patterns : List Css.Declarations} {found : Css.Declarations}
    {classes : List SharedClass} (member : found ∈ patterns)
    (made : ∀ shared ∈ classes, ∃ pattern ∈ patterns, shared.MadeFrom pattern) :
    ∀ shared ∈ count found classes, ∃ pattern ∈ patterns, shared.MadeFrom pattern := by
  induction classes with
  | nil =>
    rw [count, List.forall_mem_singleton]
    exact ⟨found, member, rfl, rfl, rfl⟩
  | cons first rest ih =>
    obtain ⟨here, later⟩ := List.forall_mem_cons.mp made
    rw [count]
    split
    next =>
      obtain ⟨pattern, known, made⟩ := here
      exact List.forall_mem_cons.mpr
        ⟨⟨pattern, known, made.name, made.key, made.declarations⟩, later⟩
    next => exact List.forall_mem_cons.mpr ⟨here, ih later⟩

/-- What counting keeps: classes are made from patterns and their keys are distinct. -/
private theorem counted {patterns : List Css.Declarations} (counted : List Css.Declarations)
    (within : counted ⊆ patterns) (classes : List SharedClass)
    (made : ∀ shared ∈ classes, ∃ pattern ∈ patterns, shared.MadeFrom pattern)
    (distinct : (classes.map (·.key)).Nodup) :
    (∀ shared ∈ counted.foldl (fun classes found => count found classes) classes,
      ∃ pattern ∈ patterns, shared.MadeFrom pattern) ∧
    ((counted.foldl (fun classes found => count found classes) classes).map (·.key)).Nodup := by
  induction counted generalizing classes with
  | nil => exact ⟨made, distinct⟩
  | cons found rest ih =>
    obtain ⟨first, within⟩ := List.cons_subset.mp within
    exact ih within _ (madeFrom_count first made) (nodup_keys_count distinct)

/-! ### Usage -/

/-- What the classes with a key have been used, together. -/
private def usageOf (key : String) (classes : List SharedClass) : Nat :=
  ((classes.filter fun shared => shared.key == key).map SharedClass.usage).foldr (· + ·) 0

private theorem usageOf_cons (key : String) (first : SharedClass) (rest : List SharedClass) :
    usageOf key (first :: rest) =
      (if first.key = key then first.usage else 0) + usageOf key rest := by
  by_cases same : first.key = key <;> simp [usageOf, same]

private theorem usageOf_count (key : String) (found : Css.Declarations)
    (classes : List SharedClass) :
    usageOf key (count found classes) =
      usageOf key classes + if found.stableKey = key then 1 else 0 := by
  induction classes with
  | nil =>
    rw [count, usageOf_cons]
    simp [usageOf]
  | cons first rest ih =>
    rw [count]
    split
    next same =>
      rw [usageOf_cons, usageOf_cons]
      by_cases keyed : found.stableKey = key
      · simp [same, keyed]
        omega
      · simp [same, keyed]
    next => rw [usageOf_cons, usageOf_cons, ih, Nat.add_assoc]

/-- Counting adds to the usage of a key as often as it occurs. -/
private theorem usageOf_counted (key : String) (counted : List Css.Declarations)
    (classes : List SharedClass) :
    usageOf key (counted.foldl (fun classes found => count found classes) classes) =
      usageOf key classes + counted.countP fun found => found.stableKey == key := by
  induction counted generalizing classes with
  | nil => rfl
  | cons found rest ih =>
    rw [List.foldl_cons, ih, usageOf_count, List.countP_cons]
    by_cases same : found.stableKey = key
    · simp [same]
      omega
    · simp [same]

private theorem usageOf_eq {shared : SharedClass} {classes : List SharedClass}
    (distinct : (classes.map (·.key)).Nodup) (member : shared ∈ classes) :
    usageOf shared.key classes = shared.usage := by
  induction classes with
  | nil => cases member
  | cons first rest ih =>
    rw [List.map_cons, List.nodup_cons] at distinct
    rw [usageOf_cons]
    rcases List.mem_cons.mp member with rfl | member
    · have others : (rest.filter fun other => other.key == shared.key) = [] := by
        rw [List.filter_eq_nil_iff]
        exact fun other here same =>
          distinct.1 (beq_iff_eq.mp same ▸ List.mem_map_of_mem here)
      simp [usageOf, others]
    · have differs : first.key ≠ shared.key := fun same =>
        distinct.1 (same ▸ List.mem_map_of_mem member)
      simp [differs, ih distinct.2 member]

private theorem mem_keys_counted {key : String} (counted : List Css.Declarations)
    (classes : List SharedClass) :
    key ∈ (counted.foldl (fun classes found => count found classes) classes).map (·.key) ↔
      key ∈ classes.map (·.key) ∨ ∃ found ∈ counted, found.stableKey = key := by
  induction counted generalizing classes with
  | nil => simp
  | cons found rest ih =>
    rw [List.foldl_cons, ih, mem_keys_count]
    simp only [List.exists_mem_cons_iff]
    grind

/-! ### Tables -/

variable {threshold : Int} {scope : String} {boxes : List Css.Declarations}

private theorem counted_patterns :
    (∀ shared ∈ (patterns boxes).foldl (fun classes found => count found classes) [],
      ∃ found ∈ patterns boxes, shared.MadeFrom found) ∧
    (((patterns boxes).foldl (fun classes found => count found classes) []).map (·.key)).Nodup :=
  counted _ (List.Subset.refl _) [] (by simp) (by simp)

/-- A class of the table is made from the pattern of a box. -/
theorem madeFrom_of_mem_build {shared : SharedClass}
    (member : shared ∈ (build threshold scope boxes).classes) :
    ∃ found ∈ patterns boxes, shared.MadeFrom found :=
  counted_patterns.1 shared (List.mem_of_mem_filter member)

theorem nodup_keys_build : ((build threshold scope boxes).classes.map (·.key)).Nodup :=
  counted_patterns.2.sublist (List.filter_sublist.map _)

/-- The usage of a class is the number of patterns with its key, which reaches the threshold. -/
theorem usage_of_mem_build {shared : SharedClass}
    (member : shared ∈ (build threshold scope boxes).classes) :
    shared.usage = (patterns boxes).countP (fun found => found.stableKey == shared.key) ∧
      threshold ≤ shared.usage := by
  obtain ⟨counted, reached⟩ := List.mem_filter.mp member
  have total := usageOf_counted shared.key (patterns boxes) []
  rw [usageOf_eq counted_patterns.2 counted] at total
  exact ⟨total.trans (Nat.zero_add _), by simpa using reached⟩

/-- A key belongs to a class where enough patterns have it. -/
theorem exists_mem_build_iff {key : String} :
    (∃ shared ∈ (build threshold scope boxes).classes, shared.key = key) ↔
      (∃ found ∈ patterns boxes, found.stableKey = key) ∧
        threshold ≤ (patterns boxes).countP fun found => found.stableKey == key := by
  constructor
  · rintro ⟨shared, member, rfl⟩
    obtain ⟨usage, reached⟩ := usage_of_mem_build member
    obtain ⟨found, known, made⟩ := madeFrom_of_mem_build member
    exact ⟨⟨found, known, made.key.symm⟩, usage ▸ reached⟩
  · rintro ⟨known, reached⟩
    have keyed := (mem_keys_counted (patterns boxes) []).mpr (.inr known)
    obtain ⟨shared, counted, rfl⟩ := List.mem_map.mp keyed
    have total := usageOf_counted shared.key (patterns boxes) []
    rw [usageOf_eq counted_patterns.2 counted] at total
    refine ⟨shared, List.mem_filter.mpr ⟨counted, ?_⟩, rfl⟩
    simpa [total, usageOf] using reached

/-- A class declares the pattern that has its key. -/
theorem declarations_perm (apart : PatternsApart boxes) {shared : SharedClass}
    (member : shared ∈ (build threshold scope boxes).classes) {found : Css.Declarations}
    (known : found ∈ patterns boxes) (same : shared.key = found.stableKey) :
    shared.declarations.toList.Perm found.toList := by
  obtain ⟨counted, here, made⟩ := madeFrom_of_mem_build member
  rw [made.declarations]
  exact apart counted here found known (by rw [← made.key, same])

/-- Names that keep the patterns apart keep the classes apart. -/
theorem nodup_names_build (apart : PatternsApart boxes) :
    ((build threshold scope boxes).classes.map (·.name)).Nodup := by
  have keys : ((build threshold scope boxes).classes.map (·.key)).Nodup := nodup_keys_build
  refine List.Nodup.map_on ?_ (.of_map _ keys)
  intro first member second other same
  obtain ⟨_, here, made⟩ := madeFrom_of_mem_build member
  obtain ⟨_, there, others⟩ := madeFrom_of_mem_build other
  -- Equal names mean equal patterns, which have equal keys.
  have perm := apart _ here _ there (by rw [← made.name, same, others.name])
  have key : first.key = second.key := by
    rw [made.key, others.key, Css.Declarations.stableKey_eq_of_perm perm]
  exact List.inj_on_of_nodup_map nodup_keys_build member other key

/-- What `apply` gives a box: nothing, or a class with the key of its pattern. -/
theorem apply_cases (table : SharedTable) (bag : Css.Declarations) :
    table.apply bag = (none, bag) ∨
      (pattern bag).stableKey.isEmpty = false ∧
        ∃ shared ∈ table.classes, shared.key = (pattern bag).stableKey ∧
          table.apply bag = (some shared.name, bag.without sharedProperties) := by
  rw [apply]
  split
  · exact .inl rfl
  next inhabited =>
    split
    next shared found =>
      exact .inr ⟨by simpa using inhabited, shared, List.mem_of_find?_eq_some found,
        by simpa using List.find?_some found, rfl⟩
    · exact .inl rfl

/-- A box gets the class of its key, if there is one. -/
theorem apply_eq_some_iff {table : SharedTable} (distinct : (table.classes.map (·.key)).Nodup)
    {bag : Css.Declarations} {name : String} :
    (table.apply bag).1 = some name ↔ (pattern bag).stableKey.isEmpty = false ∧
      ∃ shared ∈ table.classes, shared.key = (pattern bag).stableKey ∧ shared.name = name := by
  constructor
  · intro applied
    rcases table.apply_cases bag with none | ⟨inhabited, shared, member, key, some⟩
    · rw [none] at applied
      contradiction
    · rw [some] at applied
      exact ⟨inhabited, shared, member, key, Option.some.inj applied⟩
  · rintro ⟨inhabited, shared, member, key, rfl⟩
    -- No other class has the key, so this is the one that is found.
    have found : table.classes.find? (fun other => other.key == (pattern bag).stableKey) =
        some shared := by
      have some : (table.classes.find? fun other =>
          other.key == (pattern bag).stableKey).isSome :=
        List.find?_isSome.mpr ⟨shared, member, by simpa using key⟩
      obtain ⟨other, found⟩ := Option.isSome_iff_exists.mp some
      have same : other.key = (pattern bag).stableKey := by simpa using List.find?_some found
      rw [found, List.inj_on_of_nodup_map distinct (List.mem_of_find?_eq_some found) member
        (same.trans key.symm)]
    simp [apply, inhabited, found]

end SharedTable

/-- A name of a shared class shows that it is one. -/
theorem prefix_sharedName (key : String) : ['s', 'c', '-'] <+: (sharedName key).toList :=
  ⟨(Digest.sha1Hex key.toUTF8.toList).take 8, by simp [sharedName]⟩

end Artboard.Classes
