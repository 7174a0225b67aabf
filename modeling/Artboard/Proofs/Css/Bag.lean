import Artboard.Css.Declarations
import Mathlib.Data.List.Perm.Basic
import Mathlib.Data.String.Basic

/-!
# Declarations of a bag

What a bag holds after declarations are set, and what is left of it when it is
filtered. Bags with the same declarations have the same key, and a key stands for
its declarations alone.
-/
namespace Artboard.Css

theorem mem_of_mem_declare {name value : String} {declaration : Declaration}
    {declarations : List Declaration} (member : declaration ∈ declare name value declarations) :
    declaration = (name, value) ∨ declaration ∈ declarations := by
  induction declarations with
  | nil => exact .inl (List.mem_singleton.mp member)
  | cons first rest ih =>
    rw [declare] at member
    split at member
    · rcases List.mem_cons.mp member with same | member
      · exact .inl same
      · exact .inr (.tail _ member)
    · rcases List.mem_cons.mp member with rfl | member
      · exact .inr (.head _)
      · exact (ih member).imp_right (.tail _)

theorem declare_of_notMem {name value : String} {declarations : List Declaration}
    (new : name ∉ names declarations) :
    declare name value declarations = declarations ++ [(name, value)] := by
  induction declarations with
  | nil => rfl
  | cons first rest ih =>
    simp only [names, List.map_cons, List.mem_cons, not_or] at new
    rw [declare, if_neg (Ne.symm new.1), ih new.2, List.cons_append]

theorem filter_declare (keep : String → Bool) (name value : String)
    (declarations : List Declaration) :
    (declare name value declarations).filter (fun declaration => keep declaration.1) =
      if keep name then
        declare name value (declarations.filter fun declaration => keep declaration.1)
      else declarations.filter fun declaration => keep declaration.1 := by
  induction declarations with
  | nil => cases kept : keep name <;> simp [declare, kept]
  | cons first rest ih =>
    obtain ⟨other, old⟩ := first
    by_cases same : other = name
    · subst same
      cases kept : keep other <;> simp [declare, kept]
    · cases kept : keep name <;> cases keptOther : keep other <;>
        simp [declare, same, kept, keptOther, ih]

namespace Declarations

theorem eq_of_toList {first second : Declarations} (same : first.toList = second.toList) :
    first = second := by
  cases first
  cases second
  cases same
  rfl

theorem mem_of_mem_setAll (bag : Declarations) {declaration : Declaration}
    {declarations : List Declaration} (member : declaration ∈ (bag.setAll declarations).toList) :
    declaration ∈ bag.toList ∨ declaration ∈ declarations := by
  induction declarations generalizing bag with
  | nil => exact .inl member
  | cons first rest ih =>
    rcases ih (bag.set first.1 first.2) member with member | member
    · rcases mem_of_mem_declare member with rfl | member
      · exact .inr (.head _)
      · exact .inl member
    · exact .inr (.tail _ member)

theorem mem_of_mem_ofList {declaration : Declaration} {declarations : List Declaration}
    (member : declaration ∈ (ofList declarations).toList) : declaration ∈ declarations :=
  (mem_of_mem_setAll _ member).resolve_left (by simp [empty])

theorem mem_of_mem_update {bag other : Declarations} {declaration : Declaration}
    (member : declaration ∈ (bag.update other).toList) :
    declaration ∈ bag.toList ∨ declaration ∈ other.toList :=
  mem_of_mem_setAll bag member

theorem mem_names_setAll (bag : Declarations) {name : String} {declarations : List Declaration} :
    name ∈ names (bag.setAll declarations).toList ↔
      name ∈ names bag.toList ∨ name ∈ names declarations := by
  induction declarations generalizing bag with
  | nil => simp [setAll, names]
  | cons first rest ih =>
    refine (ih (bag.set first.1 first.2)).trans ?_
    have step : name ∈ names (bag.set first.1 first.2).toList ↔ _ := mem_names_declare
    rw [step]
    simp only [names, List.map_cons, List.mem_cons]
    tauto

theorem toList_setAll (bag : Declarations) {declarations : List Declaration}
    (distinct : (names (bag.toList ++ declarations)).Nodup) :
    (bag.setAll declarations).toList = bag.toList ++ declarations := by
  induction declarations generalizing bag with
  | nil => simp [setAll]
  | cons first rest ih =>
    -- A name that is not there yet goes to the end, so the order is kept.
    have new : first.1 ∉ names bag.toList := by
      simp only [names, List.map_append, List.map_cons] at distinct ⊢
      intro member
      exact (List.nodup_append.mp distinct).2.2 _ member _ (.head _) rfl
    have extended : (bag.set first.1 first.2).toList = bag.toList ++ [first] :=
      declare_of_notMem new
    have continued := ih (bag.set first.1 first.2) (by simpa [extended] using distinct)
    rw [extended, List.append_assoc] at continued
    exact continued

/-- A list without repeated names is kept as it is. -/
theorem toList_ofList {declarations : List Declaration} (distinct : (names declarations).Nodup) :
    (ofList declarations).toList = declarations := by
  simpa [ofList, empty] using toList_setAll empty (by simpa [empty] using distinct)

theorem empty_update (bag : Declarations) : empty.update bag = bag :=
  eq_of_toList (toList_ofList bag.distinct)

theorem filter_set (keep : String → Bool) (bag : Declarations) (name value : String) :
    (bag.set name value).filter keep =
      if keep name then (bag.filter keep).set name value else bag.filter keep := by
  refine eq_of_toList ((filter_declare keep name value bag.toList).trans ?_)
  split <;> rfl

theorem filter_setAll (keep : String → Bool) (bag : Declarations)
    (declarations : List Declaration) :
    (bag.setAll declarations).filter keep =
      (bag.filter keep).setAll (declarations.filter fun declaration => keep declaration.1) := by
  induction declarations generalizing bag with
  | nil => rfl
  | cons first rest ih =>
    refine (ih (bag.set first.1 first.2)).trans ?_
    rw [filter_set]
    cases kept : keep first.1 <;> simp [kept, setAll]

theorem filter_ofList (keep : String → Bool) (declarations : List Declaration) :
    (ofList declarations).filter keep =
      ofList (declarations.filter fun declaration => keep declaration.1) :=
  filter_setAll keep empty declarations

theorem filter_update (keep : String → Bool) (bag other : Declarations) :
    (bag.update other).filter keep = (bag.filter keep).update (other.filter keep) :=
  filter_setAll keep bag other.toList

/-- Nothing is lost where every name is kept. -/
theorem filter_eq_self {keep : String → Bool} {bag : Declarations}
    (kept : ∀ name ∈ names bag.toList, keep name = true) : bag.filter keep = bag := by
  refine eq_of_toList (List.filter_eq_self.mpr fun declaration member => ?_)
  exact kept _ (List.mem_map_of_mem member)

theorem filter_eq_empty {keep : String → Bool} {bag : Declarations}
    (dropped : ∀ declaration ∈ bag.toList, keep declaration.1 = false) :
    bag.filter keep = empty := by
  refine eq_of_toList (List.filter_eq_nil_iff.mpr fun declaration member => ?_)
  simp [dropped declaration member]

theorem get?_eq_some_iff {bag : Declarations} {name value : String} :
    bag.get? name = some value ↔ (name, value) ∈ bag.toList := by
  obtain ⟨declarations, distinct⟩ := bag
  simp only [get?]
  induction declarations with
  | nil => simp
  | cons first rest ih =>
    obtain ⟨other, old⟩ := first
    simp only [names, List.map_cons, List.nodup_cons] at distinct
    have others := ih distinct.2
    rw [List.lookup_cons]
    cases same : name == other with
    | true =>
      obtain rfl := beq_iff_eq.mp same
      -- The first declaration of a name is the only one.
      have absent : (name, value) ∉ rest := fun member =>
        distinct.1 (List.mem_map_of_mem (f := Prod.fst) member)
      simp [absent, eq_comm]
    | false =>
      have differ : name ≠ other := by simpa using same
      simp [others, differ]

private theorem get?_setAll (bag : Declarations) {declarations : List Declaration}
    (distinct : (names declarations).Nodup) (name : String) :
    (bag.setAll declarations).get? name = (declarations.lookup name).or (bag.get? name) := by
  induction declarations generalizing bag with
  | nil => rfl
  | cons first rest ih =>
    obtain ⟨other, value⟩ := first
    obtain ⟨new, distinct⟩ := List.nodup_cons.mp distinct
    refine (ih (bag.set other value) distinct).trans ?_
    rw [get?_set, List.lookup_cons]
    by_cases same : name = other
    · subst same
      -- The value that was set last stays, since the name is not declared again.
      have later : rest.lookup name = none := by
        refine List.lookup_eq_none_iff.mpr fun declaration member => ?_
        have declared : declaration.1 ∈ names rest := List.mem_map_of_mem member
        simpa using fun same : name = declaration.1 => new (same ▸ declared)
      simp [later]
    · have differs : (name == other) = false := by simpa using same
      simp [same, differs]

theorem get?_setAll_of_notMem {bag : Declarations} {declarations : List Declaration}
    {name : String} (foreign : name ∉ names declarations) :
    (bag.setAll declarations).get? name = bag.get? name := by
  induction declarations generalizing bag with
  | nil => rfl
  | cons first rest ih =>
    simp only [names, List.map_cons, List.mem_cons, not_or] at foreign
    refine (ih foreign.2).trans ?_
    rw [get?_set, if_neg foreign.1]

/-- After an update a name has the value of the other bag, if that declares it. -/
theorem get?_update (bag other : Declarations) (name : String) :
    (bag.update other).get? name = (other.get? name).or (bag.get? name) :=
  get?_setAll bag other.distinct name

theorem get?_ofList {declarations : List Declaration} (distinct : (names declarations).Nodup)
    (name : String) : (ofList declarations).get? name = declarations.lookup name := by
  rw [ofList, get?_setAll empty distinct]
  exact Option.or_none

private theorem get?_setAll_congr {bag other : Declarations} {name : String}
    (same : bag.get? name = other.get? name) (declarations : List Declaration) :
    (bag.setAll declarations).get? name = (other.setAll declarations).get? name := by
  induction declarations generalizing bag other with
  | nil => exact same
  | cons first rest ih =>
    refine ih ?_
    rw [get?_set, get?_set, same]

theorem ofList_append (first second : List Declaration) :
    ofList (first ++ second) = (ofList first).setAll second :=
  List.foldl_append

/-- What is not among the first declarations is looked up in the rest. -/
theorem get?_ofList_append {first second : List Declaration} {name : String}
    (foreign : name ∉ names first) :
    (ofList (first ++ second)).get? name = (ofList second).get? name := by
  rw [ofList_append]
  refine get?_setAll_congr ?_ second
  rw [ofList, get?_setAll_of_notMem foreign]

theorem contains_ofList {declarations : List Declaration} {name : String} :
    (ofList declarations).contains name = true ↔ name ∈ names declarations := by
  have named : name ∈ names (ofList declarations).toList ↔ _ := mem_names_setAll empty
  rw [contains, Option.isSome_iff_exists]
  simp only [get?_eq_some_iff]
  refine .trans ?_ (named.trans (or_iff_right (by simp [empty, names])))
  simp [names]

theorem get?_filter {keep : String → Bool} {bag : Declarations} {name : String}
    (kept : keep name = true) : (bag.filter keep).get? name = bag.get? name := by
  ext value
  rw [get?_eq_some_iff, get?_eq_some_iff]
  simp [filter, kept]

theorem isEmpty_ofList {declarations : List Declaration} (inhabited : declarations ≠ []) :
    (ofList declarations).isEmpty = false := by
  obtain ⟨declaration, member⟩ := List.exists_mem_of_ne_nil _ inhabited
  have named : declaration.1 ∈ names (ofList declarations).toList :=
    (mem_names_setAll _).mpr (.inr (List.mem_map_of_mem member))
  rw [isEmpty, List.isEmpty_eq_false_iff]
  intro none
  rw [none] at named
  cases named

theorem mem_serialize {bag : Declarations} {c : Char} :
    c ∈ bag.serialize.toList ↔
      ∃ declaration ∈ bag.toList, c ∈ (serializeDeclaration declaration).toList := by
  simp [serialize]

/-! ### Bags with certain properties only -/

/-- Every declared name is in the list. -/
def Within (bag : Declarations) (allowed : List String) : Prop :=
  ∀ name ∈ names bag.toList, name ∈ allowed

variable {allowed : List String}

theorem within_empty : empty.Within allowed := by simp [Within, empty, names]

theorem Within.mono {others : List String} {bag : Declarations} (within : bag.Within allowed)
    (wider : allowed ⊆ others) : bag.Within others :=
  fun name member => wider (within name member)

/-- What a bag may not declare is not found in it. -/
theorem Within.get? {bag : Declarations} (within : bag.Within allowed) {name : String}
    (foreign : name ∉ allowed) : bag.get? name = none := by
  refine Option.eq_none_iff_forall_ne_some.mpr fun value found => foreign (within name ?_)
  exact List.mem_map_of_mem (f := Prod.fst) (get?_eq_some_iff.mp found)

theorem Within.setAll {bag : Declarations} {declarations : List Declaration}
    (within : bag.Within allowed)
    (declared : ∀ declaration ∈ declarations, declaration.1 ∈ allowed) :
    (bag.setAll declarations).Within allowed := by
  intro name member
  rcases (mem_names_setAll bag).mp member with member | member
  · exact within name member
  · obtain ⟨declaration, here, rfl⟩ := List.mem_map.mp member
    exact declared declaration here

theorem within_ofList {declarations : List Declaration}
    (declared : ∀ declaration ∈ declarations, declaration.1 ∈ allowed) :
    (ofList declarations).Within allowed :=
  within_empty.setAll declared

theorem Within.mem {bag : Declarations} (within : bag.Within allowed) {declaration : Declaration}
    (member : declaration ∈ bag.toList) : declaration.1 ∈ allowed :=
  within _ (List.mem_map_of_mem member)

theorem Within.update {bag other : Declarations} (within : bag.Within allowed)
    (others : other.Within allowed) : (bag.update other).Within allowed :=
  within.setAll fun _ => others.mem

theorem Within.set {bag : Declarations} (within : bag.Within allowed) {name value : String}
    (declared : name ∈ allowed) : (bag.set name value).Within allowed :=
  show (bag.setAll [(name, value)]).Within allowed from within.setAll (by simpa using declared)

/-! ### Keys -/

private theorem declarationLE_total (first second : Declaration) :
    (declarationLE first second || declarationLE second first) = true := by
  simp only [declarationLE, Bool.or_eq_true, Bool.and_eq_true, decide_eq_true_eq, beq_iff_eq]
  rcases lt_trichotomy first.1 second.1 with less | same | greater
  · exact .inl (.inl less)
  · rcases le_total first.2 second.2 with below | above
    · exact .inl (.inr ⟨same, below⟩)
    · exact .inr (.inr ⟨same.symm, above⟩)
  · exact .inr (.inl greater)

private theorem declarationLE_trans (first second third : Declaration)
    (lower : declarationLE first second = true) (upper : declarationLE second third = true) :
    declarationLE first third = true := by
  simp only [declarationLE, Bool.or_eq_true, Bool.and_eq_true, decide_eq_true_eq, beq_iff_eq]
    at lower upper ⊢
  rcases lower with less | ⟨same, below⟩ <;> rcases upper with less' | ⟨same', below'⟩
  · exact .inl (less.trans less')
  · exact .inl (same' ▸ less)
  · exact .inl (same ▸ less')
  · exact .inr ⟨same.trans same', below.trans below'⟩

private theorem declarationLE_antisymm {first second : Declaration}
    (lower : declarationLE first second = true) (upper : declarationLE second first = true) :
    first = second := by
  simp only [declarationLE, Bool.or_eq_true, Bool.and_eq_true, decide_eq_true_eq, beq_iff_eq]
    at lower upper
  rcases lower with less | ⟨same, below⟩ <;> rcases upper with less' | ⟨same', below'⟩
  · exact absurd (less.trans less') (lt_irrefl _)
  · exact absurd (same' ▸ less) (lt_irrefl _)
  · exact absurd (same ▸ less') (lt_irrefl _)
  · exact Prod.ext same (le_antisymm below below')

theorem perm_sorted (bag : Declarations) : bag.sorted.Perm bag.toList := List.mergeSort_perm _ _

theorem sorted_eq_of_perm {first second : Declarations} (same : first.toList.Perm second.toList) :
    first.sorted = second.sorted := by
  have ordered (bag : Declarations) := List.pairwise_mergeSort declarationLE_trans
    declarationLE_total bag.toList
  refine List.Perm.eq_of_pairwise (fun _ _ _ _ => declarationLE_antisymm) (ordered first)
    (ordered second) ?_
  exact (perm_sorted first).trans (same.trans (perm_sorted second).symm)

/-- The key does not depend on the order of the declarations. -/
theorem stableKey_eq_of_perm {first second : Declarations}
    (same : first.toList.Perm second.toList) : first.stableKey = second.stableKey := by
  rw [stableKey, stableKey, sorted_eq_of_perm same]


/-- One declaration of a key. -/
private def keyPart (declaration : Declaration) : List Char :=
  declaration.1.toList ++ ':' :: declaration.2.toList

private theorem toList_stableKey (bag : Declarations) :
    bag.stableKey.toList = [';'].intercalate (bag.sorted.map keyPart) := by
  have part (declaration : Declaration) :
      (declaration.1 ++ ":" ++ declaration.2).toList = keyPart declaration := by simp [keyPart]
  rw [stableKey, String.toList_intercalate, List.map_map]
  exact congrArg _ (List.map_congr_left fun declaration _ => part declaration)

private theorem intercalate_keyParts {declarations : List Declaration} :
    [';'].intercalate (declarations.map keyPart) = [] ↔ declarations = [] := by
  match declarations with
  | [] => simp
  | [only] => simp [keyPart]
  | first :: next :: rest => simp [List.intercalate_cons_cons]

/-- Only a bag without declarations has an empty key. -/
theorem stableKey_isEmpty (bag : Declarations) : bag.stableKey.isEmpty = bag.toList.isEmpty := by
  rw [Bool.eq_iff_iff, String.isEmpty_iff, ← String.toList_eq_nil_iff, toList_stableKey,
    intercalate_keyParts, List.isEmpty_iff, ← List.length_eq_zero_iff, ← List.length_eq_zero_iff,
    (perm_sorted bag).length_eq]

/-- The name has none of the marks that join a key, and the value does not end its declaration. -/
def Separable (declaration : Declaration) : Prop :=
  (∀ c ∈ declaration.1.toList, c ≠ ':' ∧ c ≠ ';') ∧ ';' ∉ declaration.2.toList

private def readPart (part : List Char) : Declaration :=
  (String.ofList (part.takeWhile (· != ':')), String.ofList (part.dropWhile (· != ':')).tail)

private theorem readPart_keyPart {declaration : Declaration} (separable : Separable declaration) :
    readPart (keyPart declaration) = declaration := by
  have name : ∀ c ∈ declaration.1.toList, (c != ':') = true := fun c member => by
    simpa using (separable.1 c member).1
  rw [readPart, keyPart, List.takeWhile_append_of_pos name, List.dropWhile_append_of_pos name]
  simp

/-- The declarations that a key stands for. -/
private def readKey (key : List Char) : List Declaration :=
  if key.isEmpty then [] else (key.splitOn ';').map readPart

private theorem readKey_stableKey {bag : Declarations}
    (separable : ∀ declaration ∈ bag.toList, Separable declaration) :
    readKey bag.stableKey.toList = bag.sorted := by
  have separable : ∀ declaration ∈ bag.sorted, Separable declaration :=
    fun declaration member => separable declaration ((perm_sorted bag).subset member)
  rw [toList_stableKey, readKey]
  by_cases empty : bag.sorted = []
  · simp [empty]
  · -- No part has a semicolon inside, so the key is split where it was joined.
    have whole : ∀ part ∈ bag.sorted.map keyPart, ';' ∉ part := by
      intro part member
      obtain ⟨declaration, here, rfl⟩ := List.mem_map.mp member
      obtain ⟨name, value⟩ := separable declaration here
      simpa [keyPart, value] using fun listed => (name ';' listed).2 rfl
    have filled := mt intercalate_keyParts.mp empty
    rw [if_neg (by simpa using filled), List.splitOn_intercalate ';' whole (by simpa using empty),
      List.map_map]
    exact (List.map_congr_left fun declaration member =>
      readPart_keyPart (separable declaration member)).trans (List.map_id' _)

/-- Separable declarations with one key are the same in some order. -/
theorem perm_of_stableKey_eq {first second : Declarations}
    (one : ∀ declaration ∈ first.toList, Separable declaration)
    (other : ∀ declaration ∈ second.toList, Separable declaration)
    (same : first.stableKey = second.stableKey) : first.toList.Perm second.toList := by
  have sorted : first.sorted = second.sorted := by
    rw [← readKey_stableKey one, same, readKey_stableKey other]
  exact (perm_sorted first).symm.trans (sorted ▸ perm_sorted second)

end Declarations

end Artboard.Css
