import Artboard.Proofs.Classes.Size
import Artboard.Proofs.Render.Extraction
import Artboard.Proofs.Scene.Patterns

/-!
# Deduplication

Which boxes of a scene have a shared class or a size class is decided by how often
their pattern or their size occurs on the boxes of the scene, and the rules of the
stylesheet are those of classes that some element carries.
-/
namespace Artboard.Render

open Css.Declarations Classes Markup

variable {α : Type}

/-! ### Boxes with the same pattern or size -/

/-- The boxes have the same pattern, in whatever order they declare it. -/
def SamePattern (first second : SceneBox α) : Prop :=
  (pattern first.declarations).toList.Perm (pattern second.declarations).toList

instance (first second : SceneBox α) : Decidable (SamePattern first second) :=
  inferInstanceAs (Decidable (List.Perm _ _))

/-- The number of boxes whose pattern may become a class and is that of the box. -/
def patternCount (nodes : List (SceneNode α)) (box : SceneBox α) : Nat :=
  (SceneNode.preorders nodes).countP fun other =>
    isShareable other && decide (SamePattern other box)

/-- The number of boxes without a wrapper on which the length is written. -/
def lengthCount (nodes : List (SceneNode α)) (written : Layout α → Option String)
    (number : String) : Nat :=
  (SceneNode.preorders nodes).countP fun other =>
    isSingle other && written other.layout == some number

/-- Patterns with different keys have classes with different names. -/
def KeysApart (boxes : List Css.Declarations) : Prop :=
  ∀ first ∈ patterns boxes, ∀ second ∈ patterns boxes,
    sharedName first.stableKey = sharedName second.stableKey → first.stableKey = second.stableKey

instance (boxes : List Css.Declarations) : Decidable (KeysApart boxes) :=
  inferInstanceAs (Decidable (∀ first ∈ patterns boxes, ∀ second ∈ patterns boxes, _ → _))

private def boxKey (box : SceneBox α) : String := (pattern box.declarations).stableKey

private theorem mem_patterns_iff {nodes : List (SceneNode α)} {found : Css.Declarations} :
    found ∈ patterns (countedDeclarations nodes) ↔
      (∃ box ∈ SceneNode.preorders nodes, isShareable box = true ∧
        pattern box.declarations = found) ∧ found.stableKey.isEmpty = false := by
  simp [patterns, countedDeclarations, and_assoc]

/-- The patterns with a key are those of the boxes with the key. -/
private theorem countP_patterns (nodes : List (SceneNode α)) {key : String}
    (inhabited : key.isEmpty = false) :
    (patterns (countedDeclarations nodes)).countP (fun found => found.stableKey == key) =
      (SceneNode.preorders nodes).countP fun box => isShareable box && boxKey box == key := by
  rw [patterns, countedDeclarations, List.countP_filter, List.countP_map, List.countP_map,
    List.countP_filter]
  refine List.countP_congr fun box _ => ?_
  simp only [Function.comp_apply, boxKey, Bool.and_eq_true, beq_iff_eq, Bool.not_eq_true']
  constructor
  · rintro ⟨⟨same, -⟩, shareable⟩
    exact ⟨shareable, same⟩
  · rintro ⟨shareable, rfl⟩
    exact ⟨⟨rfl, inhabited⟩, shareable⟩

private theorem count_written (nodes : List (SceneNode α)) (written : Layout α → Option String)
    (number : String) :
    ((((SceneNode.preorders nodes).filter isSingle).map SceneBox.layout).filterMap written).count
      number = lengthCount nodes written number := by
  rw [lengthCount, List.count, List.countP_filterMap, List.countP_map, List.countP_filter]
  refine List.countP_congr fun box _ => ?_
  cases found : written box.layout <;> simp [found, and_comm]

/-- A length that is counted over the boxes without a wrapper recurs on two of them. -/
private theorem recurring_iff (nodes : List (SceneNode α)) (written : Layout α → Option String)
    (start number : String) (layout : Layout α) :
    SizeFrequency.recurring (.ofList ((((SceneNode.preorders nodes).filter isSingle).map
        SceneBox.layout).filterMap written)) start (written layout) =
          some (pixelClass start number) ↔
      written layout = some number ∧ 2 ≤ lengthCount nodes written number := by
  simp only [SizeFrequency.recurring_eq_some_iff, count_written, pixelClass_inj]
  constructor
  · rintro ⟨_, found, recurs, rfl⟩
    exact ⟨found, recurs⟩
  · rintro ⟨found, recurs⟩
    exact ⟨number, found, recurs, rfl⟩

section Compiled

variable [Scalar α] {template : String} {provider : FontProvider} {composition : Composition α}
  {scene : CompiledScene α}

/-- In a compiled scene the key of a box says which pattern it has. -/
private theorem boxKey_eq_iff
    (compiled : compileComposition template provider composition = .ok scene)
    {first second : SceneBox α} (one : first ∈ SceneNode.preorders scene.nodes)
    (other : second ∈ SceneNode.preorders scene.nodes) :
    boxKey first = boxKey second ↔ SamePattern first second :=
  ⟨perm_pattern_of_stableKey_eq compiled one other, stableKey_eq_of_perm⟩

private theorem patternCount_eq
    (compiled : compileComposition template provider composition = .ok scene)
    {box : SceneBox α} (inside : box ∈ SceneNode.preorders scene.nodes) :
    patternCount scene.nodes box = (SceneNode.preorders scene.nodes).countP fun other =>
      isShareable other && boxKey other == boxKey box := by
  refine List.countP_congr fun other member => ?_
  simp [boxKey_eq_iff compiled member inside]

private theorem patternsApart
    (compiled : compileComposition template provider composition = .ok scene)
    (apart : KeysApart (countedDeclarations scene.nodes)) :
    PatternsApart (countedDeclarations scene.nodes) := by
  intro first one second other same
  obtain ⟨⟨box, inside, -, rfl⟩, -⟩ := mem_patterns_iff.mp one
  obtain ⟨⟨next, within, -, rfl⟩, -⟩ := mem_patterns_iff.mp other
  exact (boxKey_eq_iff compiled inside within).mp (apart _ one _ other same)

/-! ### Classes of a box -/

variable {settings : Settings}

/-- The class that the shared pass attaches to a box. -/
def sharedClass? (tables : Tables) (box : SceneBox α) : Option String :=
  (Extraction.ofBox tables box).toOption.bind Extraction.shared

private theorem sharedClass?_eq_some_iff {tables : Tables} {box : SceneBox α} {name : String} :
    sharedClass? tables box = some name ↔
      ∃ found, Extraction.ofBox tables box = .ok found ∧ found.shared = some name := by
  rw [sharedClass?]
  cases Extraction.ofBox tables box with
  | error fault => simp [Except.toOption]
  | ok found => simp [Except.toOption]

private theorem shared_iff {box : SceneBox α} (tidy : Tidy box) {found : Extraction}
    (extracted : Extraction.ofBox (.ofScene .content settings scene.nodes) box = .ok found)
    {name : String} :
    found.shared = some name ↔ isShareable box = true ∧ (boxKey box).isEmpty = false ∧
      ∃ shared ∈ (Tables.ofScene .content settings scene.nodes).shared.classes,
        shared.key = boxKey box ∧ shared.name = name := by
  refine Extraction.shared_eq_some_iff ?_ tidy extracted
  rw [shared_ofScene]
  exact SharedTable.nodup_keys_build

/-- A box without a shareable pattern has no shared class; any other has one where enough boxes
have its pattern. -/
private theorem isSome_shared_iff
    (compiled : compileComposition template provider composition = .ok scene)
    {box : SceneBox α} (inside : box ∈ SceneNode.preorders scene.nodes) {found : Extraction}
    (extracted : Extraction.ofBox (.ofScene .content settings scene.nodes) box = .ok found) :
    found.shared.isSome = true ↔ isShareable box = true ∧
      (pattern box.declarations).toList ≠ [] ∧
      settings.sharedClassThreshold ≤ patternCount scene.nodes box := by
  have named : found.shared.isSome = true ↔ ∃ name, found.shared = some name :=
    Option.isSome_iff_exists
  have empty : (boxKey box).isEmpty = false ↔ (pattern box.declarations).toList ≠ [] := by
    rw [boxKey, stableKey_isEmpty, List.isEmpty_eq_false_iff]
  simp only [named, shared_iff (tidy_of_compiled compiled box inside) extracted,
    exists_and_left, shared_ofScene, ← empty]
  refine and_congr_right fun shareable => and_congr_right fun inhabited => ?_
  have counted : ∃ found ∈ patterns (countedDeclarations scene.nodes),
      found.stableKey = boxKey box :=
    ⟨_, mem_patterns_iff.mpr ⟨⟨box, inside, shareable, rfl⟩, inhabited⟩, rfl⟩
  rw [patternCount_eq compiled inside, ← countP_patterns _ inhabited]
  constructor
  · rintro ⟨name, shared, member, key, -⟩
    exact (SharedTable.exists_mem_build_iff.mp ⟨shared, member, key⟩).2
  · intro enough
    obtain ⟨shared, member, key⟩ := SharedTable.exists_mem_build_iff.mpr ⟨counted, enough⟩
    exact ⟨shared.name, shared, member, key, rfl⟩

/-- Boxes with shared classes have the same one if they have the same pattern, and only then. -/
private theorem shared_eq_iff
    (compiled : compileComposition template provider composition = .ok scene)
    (apart : KeysApart (countedDeclarations scene.nodes)) {first second : SceneBox α}
    (one : first ∈ SceneNode.preorders scene.nodes)
    (other : second ∈ SceneNode.preorders scene.nodes)
    {found others : Extraction}
    (extracted : Extraction.ofBox (.ofScene .content settings scene.nodes) first = .ok found)
    (others_extracted : Extraction.ofBox (.ofScene .content settings scene.nodes) second =
      .ok others) {name next : String} (shared : found.shared = some name)
    (others_shared : others.shared = some next) :
    name = next ↔ SamePattern first second := by
  rw [shared_iff (tidy_of_compiled compiled first one) extracted] at shared
  rw [shared_iff (tidy_of_compiled compiled second other) others_extracted] at others_shared
  obtain ⟨-, -, left, member, key, rfl⟩ := shared
  obtain ⟨-, -, right, within, keys, rfl⟩ := others_shared
  rw [shared_ofScene] at member within
  rw [← boxKey_eq_iff compiled one other, ← key, ← keys]
  constructor
  · intro same
    obtain ⟨_, known, made⟩ := SharedTable.madeFrom_of_mem_build member
    obtain ⟨_, listed, others⟩ := SharedTable.madeFrom_of_mem_build within
    rw [made.key, others.key]
    exact apart _ known _ listed (by rw [← made.name, same, others.name])
  · intro same
    rw [List.inj_on_of_nodup_map SharedTable.nodup_keys_build member within same]

/-- A class of the table is that of the boxes with its key. -/
private theorem sharedClass?_eq_iff
    (compiled : compileComposition template provider composition = .ok scene)
    (apart : KeysApart (countedDeclarations scene.nodes)) {shared : SharedClass}
    (member : shared ∈ (Tables.ofScene .content settings scene.nodes).shared.classes)
    {box : SceneBox α} (inside : box ∈ SceneNode.preorders scene.nodes) {found : Extraction}
    (extracted : Extraction.ofBox (.ofScene .content settings scene.nodes) box = .ok found) :
    sharedClass? (.ofScene .content settings scene.nodes) box = some shared.name ↔
      isShareable box = true ∧ boxKey box = shared.key := by
  have attached : sharedClass? (.ofScene .content settings scene.nodes) box = found.shared := by
    rw [sharedClass?, extracted]
    rfl
  have names :
      ((Tables.ofScene .content settings scene.nodes).shared.classes.map (·.name)).Nodup := by
    rw [shared_ofScene]
    exact SharedTable.nodup_names_build (patternsApart compiled apart)
  rw [attached, shared_iff (tidy_of_compiled compiled box inside) extracted]
  refine and_congr_right fun _ => ⟨?_, fun key => ?_⟩
  · rintro ⟨-, other, within, key, same⟩
    rw [← key, List.inj_on_of_nodup_map names within member same]
  · refine ⟨?_, shared, member, key.symm, rfl⟩
    rw [shared_ofScene] at member
    obtain ⟨_, known, made⟩ := SharedTable.madeFrom_of_mem_build member
    rw [key, made.key]
    exact (mem_patterns_iff.mp known).2

/-- The extraction from every box of the scene returns. -/
def Extracts (tables : Tables) (nodes : List (SceneNode α)) : Prop :=
  ∀ box ∈ SceneNode.preorders nodes, ∃ found, Extraction.ofBox tables box = .ok found

private theorem usage_eq
    (compiled : compileComposition template provider composition = .ok scene)
    (apart : KeysApart (countedDeclarations scene.nodes))
    (extracts : Extracts (.ofScene .content settings scene.nodes) scene.nodes)
    {shared : SharedClass}
    (member : shared ∈ (Tables.ofScene .content settings scene.nodes).shared.classes) :
    shared.usage = (SceneNode.preorders scene.nodes).countP fun box =>
      sharedClass? (.ofScene .content settings scene.nodes) box == some shared.name := by
  have listed := member
  rw [shared_ofScene] at listed
  obtain ⟨_, known, made⟩ := SharedTable.madeFrom_of_mem_build listed
  have inhabited : shared.key.isEmpty = false := made.key ▸ (mem_patterns_iff.mp known).2
  rw [(SharedTable.usage_of_mem_build listed).1, countP_patterns _ inhabited]
  refine List.countP_congr fun box inside => ?_
  obtain ⟨found, extracted⟩ := extracts box inside
  simp [sharedClass?_eq_iff compiled apart member inside extracted]

/-! ### Size classes -/

/-- Among the classes of a box only its sizes are named like them. -/
private theorem pixelClass_mem_classes {box : SceneBox α} {found : Extraction}
    (extracted : Extraction.ofBox (.ofScene .content settings scene.nodes) box = .ok found)
    (tidy : Tidy box) {start : String} (size : start ∈ sizeStarts) (number : String) :
    pixelClass start number ∈ found.classes ↔
      pixelClass start number ∈
        sizeNames (ownSizes (.ofScene .content settings scene.nodes) box) := by
  have shared : found.shared ≠ some (pixelClass start number) := by
    rw [Ne, shared_iff tidy extracted]
    rintro ⟨-, -, shared, member, -, named⟩
    rw [shared_ofScene] at member
    obtain ⟨_, -, made⟩ := SharedTable.madeFrom_of_mem_build member
    exact sharedName_ne_pixelClass size number _ (made.name.symm.trans named)
  cases carried : carriedCss (.ofScene .content settings scene.nodes) box with
  | error fault =>
    rw [Extraction.ofBox, carried] at extracted
    contradiction
  | ok bag =>
    rw [Extraction.ofBox, carried] at extracted
    cases extracted
    have utility : pixelClass start number ∉ (splitUtilities bag).1 := by
      intro member
      obtain ⟨declaration, -, classed⟩ := List.mem_filterMap.mp member
      exact utilityClass?_ne_pixelClass size number declaration classed
    rw [Extraction.classes, List.mem_append, List.mem_append]
    constructor
    · rintro ((member | member) | member)
      · exact absurd member utility
      · exact member
      · exact absurd (Option.mem_toList.mp member) shared
    · exact fun member => .inl (.inr member)

private theorem size_mem_iff (settings : Settings) (scene : CompiledScene α) (box : SceneBox α)
    (number : String) :
    (pixelClass "w" number ∈ sizeNames (ownSizes (.ofScene .content settings scene.nodes) box) ↔
      isSingle box = true ∧ SizeFrequency.writtenWidth box.layout = some number ∧
        2 ≤ lengthCount scene.nodes SizeFrequency.writtenWidth number) ∧
    (pixelClass "h" number ∈ sizeNames (ownSizes (.ofScene .content settings scene.nodes) box) ↔
      isSingle box = true ∧ SizeFrequency.writtenHeight box.layout = some number ∧
        2 ≤ lengthCount scene.nodes SizeFrequency.writtenHeight number) := by
  rw [ownSizes, isSingle]
  cases box.layout.wrapper with
  | some wrapper => simp [sizeNames]
  | none =>
    -- A class of one axis is never one of the other.
    have width : ∀ name, (SizeFrequency.heightClass
        (Tables.ofScene .content settings scene.nodes).sizes box.layout) = some name →
          pixelClass "w" number ≠ name := by
      rintro name found rfl
      obtain ⟨_, -, -, same⟩ := SizeFrequency.recurring_eq_some_iff.mp found
      exact pixelClass_width_ne_height _ _ same.symm
    have height : ∀ name, (SizeFrequency.widthClass
        (Tables.ofScene .content settings scene.nodes).sizes box.layout) = some name →
          pixelClass "h" number ≠ name := by
      rintro name found rfl
      obtain ⟨_, -, -, same⟩ := SizeFrequency.recurring_eq_some_iff.mp found
      exact pixelClass_width_ne_height _ _ same
    have content : (Tables.ofScene .content settings scene.nodes).mode = .content := rfl
    simp only [sizeClasses, content, sizeNames, List.mem_append, Option.mem_toList,
      Option.isNone_none, true_and]
    constructor
    · refine .trans ?_ (recurring_iff scene.nodes SizeFrequency.writtenWidth "w" number box.layout)
      exact ⟨fun member => member.resolve_right fun other => width _ other rfl, .inl⟩
    · refine .trans ?_ (recurring_iff scene.nodes SizeFrequency.writtenHeight "h" number box.layout)
      exact ⟨fun member => member.resolve_left fun other => height _ other rfl, .inr⟩

/-! ### The whole scene -/

/-- A box has a shared class if its pattern is not empty and occurs on enough boxes, and a size
class if its size is written on two boxes or more, and only then. The pattern is the shared part
of everything that the box declares. -/
structure Deduplicated (settings : Settings) (nodes : List (SceneNode α)) (box : SceneBox α)
    (found : Extraction) : Prop where
  shared : found.shared.isSome = true ↔ isShareable box = true ∧
    (pattern box.declarations).toList ≠ [] ∧
    settings.sharedClassThreshold ≤ patternCount nodes box
  width : ∀ number, pixelClass "w" number ∈ found.classes ↔ isSingle box = true ∧
    SizeFrequency.writtenWidth box.layout = some number ∧
    2 ≤ lengthCount nodes SizeFrequency.writtenWidth number
  height : ∀ number, pixelClass "h" number ∈ found.classes ↔ isSingle box = true ∧
    SizeFrequency.writtenHeight box.layout = some number ∧
    2 ≤ lengthCount nodes SizeFrequency.writtenHeight number
  declared : isSingle box = true →
    ∃ whole, wholeCss box = .ok whole ∧ pattern whole = pattern box.declarations

/-- Boxes share a class exactly if they have the same pattern. Every shared class is carried, has
one rule and is used as often as recorded, and every rule of a utility class is carried too. -/
structure Accounted (tables : Tables) (used : UtilitySet) (nodes : List (SceneNode α)) : Prop where
  same : ∀ first ∈ SceneNode.preorders nodes, ∀ second ∈ SceneNode.preorders nodes,
    ∀ name next, sharedClass? tables first = some name → sharedClass? tables second = some next →
      (name = next ↔ SamePattern first second)
  usage : ∀ shared ∈ tables.shared.classes, shared.usage =
    (SceneNode.preorders nodes).countP fun box => sharedClass? tables box == some shared.name
  ruled : ∀ box ∈ SceneNode.preorders nodes, ∀ name ∈ sharedClass? tables box,
    ((classRules tables used).countP fun rule => rule.name == name) = 1
  carried : ∀ rule ∈ sharedRules tables.shared,
    ∃ box ∈ SceneNode.preorders nodes, sharedClass? tables box = some rule.name
  utilities : ∀ rule ∈ utilityRules used, ∃ box ∈ SceneNode.preorders nodes,
    ∃ found, Extraction.ofBox tables box = .ok found ∧ rule.name ∈ found.utilities ++ found.sizes

private theorem deduplicated
    (compiled : compileComposition template provider composition = .ok scene)
    {box : SceneBox α} (inside : box ∈ SceneNode.preorders scene.nodes) {found : Extraction}
    (extracted : Extraction.ofBox (.ofScene .content settings scene.nodes) box = .ok found) :
    Deduplicated settings scene.nodes box found := by
  have tidy := tidy_of_compiled compiled box inside
  have sizes (number : String) := size_mem_iff settings scene box number
  refine ⟨isSome_shared_iff compiled inside extracted, fun number => ?_, fun number => ?_, ?_⟩
  · rw [pixelClass_mem_classes extracted tidy (by simp [sizeStarts]), (sizes number).1]
  · rw [pixelClass_mem_classes extracted tidy (by simp [sizeStarts]), (sizes number).2]
  · intro single
    obtain ⟨whole, _, _, styled, -⟩ := passes_ofBox tidy extracted
    exact ⟨whole, styled, pattern_wholeCss single styled⟩

/-- The rules with the name of a shared class are one. -/
private theorem countP_rules {tables : Tables} {used : UtilitySet}
    (named : NamedShared tables.shared) (distinct : (tables.shared.classes.map (·.name)).Nodup)
    {shared : SharedClass} (member : shared ∈ tables.shared.classes) :
    ((classRules tables used).countP fun rule => rule.name == shared.name) = 1 := by
  have utilities : ((utilityRules used).countP fun rule => rule.name == shared.name) = 0 := by
    rw [List.countP_eq_zero]
    exact fun rule listed => by simpa using utilityRules_ne_shared named member rule listed
  have names : (sharedRules tables.shared).map (·.name) = tables.shared.classes.map (·.name) := by
    rw [sharedRules, List.map_map]
    rfl
  have once := List.count_eq_one_of_mem distinct (List.mem_map_of_mem member)
  rw [← names, List.count, List.countP_map] at once
  rw [classRules, List.countP_append, utilities, Nat.zero_add]
  exact once

private theorem exists_carrier
    (compiled : compileComposition template provider composition = .ok scene)
    (apart : KeysApart (countedDeclarations scene.nodes))
    (extracts : Extracts (.ofScene .content settings scene.nodes) scene.nodes)
    {shared : SharedClass}
    (member : shared ∈ (Tables.ofScene .content settings scene.nodes).shared.classes) :
    ∃ box ∈ SceneNode.preorders scene.nodes,
      sharedClass? (.ofScene .content settings scene.nodes) box = some shared.name := by
  have listed := member
  rw [shared_ofScene] at listed
  obtain ⟨_, known, made⟩ := SharedTable.madeFrom_of_mem_build listed
  obtain ⟨⟨box, inside, shareable, rfl⟩, -⟩ := mem_patterns_iff.mp known
  obtain ⟨found, extracted⟩ := extracts box inside
  exact ⟨box, inside, (sharedClass?_eq_iff compiled apart member inside extracted).mpr
    ⟨shareable, made.key.symm⟩⟩

private theorem accounted
    (compiled : compileComposition template provider composition = .ok scene)
    (apart : KeysApart (countedDeclarations scene.nodes))
    (extracts : Extracts (.ofScene .content settings scene.nodes) scene.nodes)
    {used : UtilitySet} (needed : ∀ name ∈ used.names, ∃ box ∈ SceneNode.preorders scene.nodes,
      NeedsRule (.ofScene .content settings scene.nodes) box name) :
    Accounted (.ofScene .content settings scene.nodes) used scene.nodes := by
  refine ⟨?_, fun shared => usage_eq compiled apart extracts, ?_, ?_, ?_⟩
  · intro first one second other name next carried others
    obtain ⟨found, extracted, shared⟩ := sharedClass?_eq_some_iff.mp carried
    obtain ⟨more, others_extracted, others_shared⟩ := sharedClass?_eq_some_iff.mp others
    exact shared_eq_iff compiled apart one other extracted others_extracted shared others_shared
  · intro box inside name carried
    obtain ⟨found, extracted, shared⟩ := sharedClass?_eq_some_iff.mp carried
    obtain ⟨-, -, counted, member, -, rfl⟩ :=
      (shared_iff (tidy_of_compiled compiled box inside) extracted).mp shared
    refine countP_rules (namedShared_ofScene settings scene.nodes) ?_ member
    rw [shared_ofScene]
    exact SharedTable.nodup_names_build (patternsApart compiled apart)
  · intro rule listed
    obtain ⟨shared, member, rfl⟩ := List.mem_map.mp listed
    exact exists_carrier compiled apart extracts member
  · intro rule listed
    obtain ⟨name, member, made⟩ := List.mem_filterMap.mp listed
    obtain ⟨declaration, -, rfl⟩ := Option.map_eq_some_iff.mp made
    obtain ⟨box, inside, needs⟩ := needed name (UtilitySet.mem_ordered.mp member)
    exact ⟨box, inside, needs.content rfl⟩

/-- The stylesheet is made of the rules of pseudo-elements and of classes in use, every element
carries the classes that the counts give its box, and every rule of a class is accounted for. -/
def DeduplicatesExactly (settings : Settings) (scene : CompiledScene α) (markup : RenderedMarkup) :
    Prop :=
  ∃ used : UtilitySet,
    markup.css = String.intercalate "\n" (scene.rules.texts ++
      (classRules (.ofScene .content settings scene.nodes) used).map ClassRule.text) ∧
    List.Forall₂ (Draws fun box _ head => ∃ found,
      CarriesExtraction (.ofScene .content settings scene.nodes) box head found ∧
      Deduplicated settings scene.nodes box found) scene.nodes markup.elements ∧
    Accounted (.ofScene .content settings scene.nodes) used scene.nodes

/-- Deduplication is exact: which classes an element carries is decided by how often the pattern
and the sizes of its box occur in the scene, and the rules are those of the classes carried. -/
theorem deduplication_is_exact
    (compiled : compileComposition template provider composition = .ok scene)
    (apart : KeysApart (countedDeclarations scene.nodes)) {markup : RenderedMarkup}
    (rendered : renderScene .content settings scene = .ok markup) :
    DeduplicatesExactly settings scene markup := by
  obtain ⟨used, drawn, written⟩ := renderScene_cases rendered
  have extracts : Extracts (.ofScene .content settings scene.nodes) scene.nodes := by
    intro box inside
    obtain ⟨outer, head, styled⟩ := exists_heads drawn.draws inside
    obtain ⟨found, _, carries, -⟩ := styled.content rfl
    exact ⟨found, carries.extracted⟩
  refine ⟨used, written.trans (contentCss_eq scene rfl), ?_, accounted compiled apart extracts ?_⟩
  · refine forall₂_imp_of_mem drawn.draws fun node member element draws => ?_
    refine draws.mono node element fun box inside outer head styled => ?_
    obtain ⟨found, _, carries, -⟩ := styled.content rfl
    exact ⟨found, carries,
      deduplicated compiled (mem_preorders_of_mem member inside) carries.extracted⟩
  · -- Nothing was in use before the scene was drawn.
    intro name member
    exact (drawn.needed name member).resolve_left List.not_mem_nil

end Compiled

theorem fadedRow_deduplicates_exactly :
    ∃ scene markup, compileComposition "" (fun _ => none) fadedRow = .ok scene ∧
      KeysApart (countedDeclarations scene.nodes) ∧
      renderScene .content .default scene = .ok markup ∧
      (SceneNode.preorders scene.nodes).map
          (sharedClass? (.ofScene .content .default scene.nodes)) =
        [none, some "sc-e1549fdc", none, some "sc-e1549fdc"] ∧
      DeduplicatesExactly .default scene markup := by
  obtain ⟨scene, compiled, holds⟩ := Except.exists_of_any
    (fun scene => decide (KeysApart (countedDeclarations scene.nodes)) &&
      decide ((SceneNode.preorders scene.nodes).map
        (sharedClass? (.ofScene .content .default scene.nodes)) =
          [none, some "sc-e1549fdc", none, some "sc-e1549fdc"]) &&
      (renderScene .content .default scene).toOption.any fun _ => true)
    (show (compileComposition "" (fun _ => none) fadedRow).toOption.any _ = true by
      decide +kernel)
  simp only [Bool.and_eq_true, decide_eq_true_eq] at holds
  obtain ⟨⟨apart, classes⟩, drawn⟩ := holds
  obtain ⟨markup, rendered, -⟩ := Except.exists_of_any _ drawn
  exact ⟨scene, markup, compiled, apart, rendered, classes,
    deduplication_is_exact compiled apart rendered⟩

end Artboard.Render
