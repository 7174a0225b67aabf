import Artboard.Proofs.Classes.Shared
import Artboard.Proofs.Render.Carried
import Artboard.Proofs.Render.Rules
import Artboard.Proofs.Scene.Enumeration

/-!
# Extraction of classes

Sizes, utilities and shared patterns are moved out of the declarations of an
element one after the other. What is left in its style and what the rules of its
classes declare are together what the box declares.
-/
namespace Artboard.Render

open Css.Declarations Classes Markup

variable {α : Type} [Scalar α]

/-- What the declarations of an element become: three kinds of classes and a style. -/
structure Extraction where
  sizes : List String
  utilities : List String
  shared : Option String
  inline : Css.Declarations

namespace Extraction

def classes (found : Extraction) : List String :=
  found.utilities ++ found.sizes ++ found.shared.toList

/-- What the style and the rules of the classes declare. -/
def declared (rules : List ClassRule) (found : Extraction) : List Css.Declaration :=
  found.inline.toList ++ found.classes.flatMap (ClassRule.declared rules)

/-- The extraction from the declarations that are left after the sizes. -/
def ofBag (tables : Tables) (box : SceneBox α) (bag : Css.Declarations) : Extraction :=
  let (utilities, rest) := splitUtilities bag
  let (shared, inline) :=
    if isShareable box then tables.shared.apply rest else (none, rest)
  { sizes := sizeNames (ownSizes tables box), utilities, shared, inline }

def ofBox (tables : Tables) (box : SceneBox α) : Except Fault Extraction :=
  (carriedCss tables box).map (ofBag tables box)

end Extraction

/-! ### Names that stand for declarations -/

/-- Each name is that of a class with the declaration at its place. -/
def StandFor (names : List String) (declarations : List Css.Declaration) : Prop :=
  names.map declarationOf = declarations.map some

theorem StandFor.append {names others : List String} {declarations more : List Css.Declaration}
    (first : StandFor names declarations) (second : StandFor others more) :
    StandFor (names ++ others) (declarations ++ more) := by
  rw [StandFor, List.map_append, List.map_append, first, second]

theorem standFor_utilities {declarations : List Css.Declaration}
    (gaps : ∀ declaration ∈ declarations, declaration.1 ∈ gapProperties →
      ∃ length : α, declaration.2 = Css.px length) :
    StandFor (declarations.filterMap utilityClass?)
      (declarations.filter fun declaration => (utilityClass? declaration).isSome) := by
  induction declarations with
  | nil => rfl
  | cons first rest ih =>
    obtain ⟨here, later⟩ := List.forall_mem_cons.mp gaps
    have others := ih later
    cases classed : utilityClass? first with
    | none => simpa [classed] using others
    | some name =>
      have known := declarationOf_of_utilityClass? here classed
      have one : StandFor [name] [first] := by simp [StandFor, known]
      simpa [classed] using one.append others

theorem StandFor.exists_of_mem {names : List String} {declarations : List Css.Declaration}
    (stand : StandFor names declarations) {name : String} (member : name ∈ names) :
    ∃ declaration, declarationOf name = some declaration := by
  have listed : declarationOf name ∈ declarations.map some :=
    stand ▸ List.mem_map_of_mem member
  obtain ⟨declaration, -, same⟩ := List.mem_map.mp listed
  exact ⟨declaration, same.symm⟩

/-- Names in use that stand for declarations have rules for just these. -/
theorem StandFor.flatMap_declared {rules : List ClassRule} {names : List String}
    {declarations : List Css.Declaration} (stand : StandFor names declarations)
    (ruled : ∀ name ∈ names, ∀ declaration, declarationOf name = some declaration →
      ClassRule.declared rules name = [declaration]) :
    names.flatMap (ClassRule.declared rules) = declarations := by
  induction names generalizing declarations with
  | nil =>
    rw [StandFor, List.map_nil, eq_comm, List.map_eq_nil_iff] at stand
    rw [stand, List.flatMap_nil]
  | cons name rest ih =>
    cases declarations with
    | nil => simp [StandFor] at stand
    | cons declaration more =>
      simp only [StandFor, List.map_cons, List.cons.injEq] at stand
      obtain ⟨here, later⟩ := List.forall_mem_cons.mp ruled
      rw [List.flatMap_cons, here declaration stand.1, ih stand.2 later, List.singleton_append]

/-! ### What the passes leave -/

theorem utilityClass?_shared {declaration : Css.Declaration}
    (shared : declaration.1 ∈ sharedProperties) : utilityClass? declaration = none := by
  have named : ∀ entry ∈ simpleUtilities, entry.1.1 ∉ sharedProperties := by decide +kernel
  have gaps : ∀ name ∈ sharedProperties, gapProperties.contains name = false := by decide
  have unnamed : simpleUtilities.lookup declaration = none := by
    rw [List.lookup_eq_none_iff]
    intro entry member
    rw [bne_iff_ne]
    rintro rfl
    exact named entry member shared
  rw [utilityClass?, unnamed, gaps _ shared]
  simp

/-- The utility pass takes out what it has classes for. -/
theorem splitUtilities_perm (bag : Css.Declarations) :
    ((splitUtilities bag).2.toList ++
      bag.toList.filter fun declaration => (utilityClass? declaration).isSome).Perm
        bag.toList := by
  have others : (fun declaration => (utilityClass? declaration).isSome) =
      fun declaration => !(utilityClass? declaration).isNone := by
    funext declaration
    simp
  rw [toList_splitUtilities, others]
  exact List.filter_append_perm _ _

private theorem pattern_eq {rest bag : Css.Declarations} {keep : Css.Declaration → Bool}
    (left : rest.toList = bag.toList.filter keep)
    (kept : ∀ declaration, declaration.1 ∈ sharedProperties → keep declaration = true) :
    pattern rest = pattern bag := by
  apply eq_of_toList
  change rest.toList.filter (fun declaration => sharedProperties.contains declaration.1) =
    bag.toList.filter fun declaration => sharedProperties.contains declaration.1
  rw [left, List.filter_filter]
  refine List.filter_congr fun declaration _ => ?_
  cases shared : sharedProperties.contains declaration.1 with
  | false => rfl
  | true => simp [kept declaration (by simpa using shared)]

theorem pattern_splitUtilities (bag : Css.Declarations) :
    pattern (splitUtilities bag).2 = pattern bag :=
  pattern_eq (toList_splitUtilities bag) fun _ shared => by simp [utilityClass?_shared shared]

private theorem pattern_isLeft (sizes : Option String × Option String) (bag : Css.Declarations) :
    pattern (bag.filter (isLeft sizes)) = pattern bag := by
  have names : ∀ name ∈ sharedProperties, isSize name = false := by decide
  exact pattern_eq rfl fun _ shared => isLeft_of_isSize _ (names _ shared)

/-- The passes before the shared one leave the pattern of a box without a wrapper as it is. -/
private theorem pattern_rest {box : SceneBox α} (single : isSingle box = true)
    {whole : Css.Declarations} (styled : wholeCss box = .ok whole)
    (sizes : Option String × Option String) :
    pattern (splitUtilities (whole.filter (isLeft sizes))).2 = pattern box.declarations := by
  rw [pattern_splitUtilities, pattern_isLeft, pattern_wholeCss single styled]

omit [Scalar α] in
private theorem single_of_shareable {box : SceneBox α} (shareable : isShareable box = true) :
    isSingle box = true := (Bool.and_eq_true_iff.mp shareable).1

/-- What the extraction from a box goes through: the size and the utility pass move declarations
into classes that stand for them, and the shared pass may take the pattern of the rest. -/
structure Passes (tables : Tables) (box : SceneBox α) (whole rest : Css.Declarations)
    (moved : List Css.Declaration) (found : Extraction) : Prop where
  kept : (rest.toList ++ moved).Perm whole.toList
  stand : StandFor (found.utilities ++ found.sizes) moved
  shared : found.shared = none ∧ found.inline = rest ∨
    isShareable box = true ∧ pattern rest = pattern box.declarations ∧
      (pattern rest).stableKey.isEmpty = false ∧
      ∃ shared ∈ tables.shared.classes, shared.key = (pattern rest).stableKey ∧
        found.shared = some shared.name ∧ found.inline = rest.without sharedProperties

private theorem passes_ofBag {tables : Tables} {box : SceneBox α} (tidy : Tidy box)
    {whole : Css.Declarations} (styled : wholeCss box = .ok whole) {bag : Css.Declarations}
    (left : bag = whole.filter (isLeft (ownSizes tables box))) :
    ∃ rest moved, Passes tables box whole rest moved (Extraction.ofBag tables box bag) := by
  have sized : (bag.toList ++ whole.toList.filter fun declaration =>
      !isLeft (ownSizes tables box) declaration.1).Perm whole.toList := by
    rw [left]
    exact List.filter_append_perm _ _
  have gaps : ∀ declaration ∈ bag.toList, declaration.1 ∈ gapProperties →
      ∃ length : α, declaration.2 = Css.px length := fun declaration member =>
    gaps_of_wholeCss tidy styled declaration (sized.subset (List.mem_append_left _ member))
  refine ⟨(splitUtilities bag).2, _, ?_, .append (standFor_utilities gaps)
    (ownSizes_taken tables tidy styled), ?_⟩
  · rw [← List.append_assoc]
    exact ((splitUtilities_perm bag).append_right _).trans sized
  · rw [Extraction.ofBag]
    dsimp only
    split
    next shareable =>
      rcases tables.shared.apply_cases (splitUtilities bag).2 with
        same | ⟨inhabited, shared, member, key, same⟩
      · exact .inl (by simp [same])
      · refine .inr ⟨shareable, ?_, inhabited, shared, member, key, by simp [same]⟩
        rw [left, pattern_rest (single_of_shareable shareable) styled]
    · exact .inl ⟨rfl, rfl⟩

/-- What is extracted for a box comes from what it declares, apart from the sizes of its own. -/
private theorem exists_whole_of_ofBox {tables : Tables} {box : SceneBox α} (tidy : Tidy box)
    {found : Extraction} (extracted : Extraction.ofBox tables box = .ok found) :
    ∃ whole, wholeCss box = .ok whole ∧
      found = Extraction.ofBag tables box (whole.filter (isLeft (ownSizes tables box))) := by
  rw [Extraction.ofBox, carriedCss_eq tables tidy] at extracted
  cases styled : wholeCss box with
  | error fault =>
    rw [styled] at extracted
    contradiction
  | ok whole =>
    rw [styled] at extracted
    cases extracted
    exact ⟨whole, rfl, rfl⟩

theorem passes_ofBox {tables : Tables} {box : SceneBox α} (tidy : Tidy box) {found : Extraction}
    (extracted : Extraction.ofBox tables box = .ok found) :
    ∃ whole rest moved, wholeCss box = .ok whole ∧ Passes tables box whole rest moved found := by
  obtain ⟨whole, styled, rfl⟩ := exists_whole_of_ofBox tidy extracted
  obtain ⟨rest, moved, passes⟩ := passes_ofBag tidy styled rfl
  exact ⟨whole, rest, moved, styled, passes⟩

/-- A box gets the shared class that has the key of its own pattern. -/
theorem Extraction.shared_eq_some_iff {tables : Tables}
    (distinct : (tables.shared.classes.map (·.key)).Nodup) {box : SceneBox α} (tidy : Tidy box)
    {found : Extraction} (extracted : Extraction.ofBox tables box = .ok found) {name : String} :
    found.shared = some name ↔ isShareable box = true ∧
      (pattern box.declarations).stableKey.isEmpty = false ∧
      ∃ shared ∈ tables.shared.classes,
        shared.key = (pattern box.declarations).stableKey ∧ shared.name = name := by
  obtain ⟨whole, styled, rfl⟩ := exists_whole_of_ofBox tidy extracted
  rw [Extraction.ofBag]
  dsimp only
  split
  next shareable =>
    rw [SharedTable.apply_eq_some_iff distinct,
      pattern_rest (single_of_shareable shareable) styled]
    simp [shareable]
  next other => simp [other]

/-! ### What is declared afterwards -/

section Content

variable {settings : Settings} {nodes : List (SceneNode α)} {used : UtilitySet}

/-- The declarations whose patterns are counted. -/
def countedDeclarations (nodes : List (SceneNode α)) : List Css.Declarations :=
  ((SceneNode.preorders nodes).filter isShareable).map SceneBox.declarations

theorem shared_ofScene (settings : Settings) (nodes : List (SceneNode α)) :
    (Tables.ofScene .content settings nodes).shared =
      .build settings.sharedClassThreshold settings.classScope (countedDeclarations nodes) := by
  have both : (fun box : SceneBox α => box.kind != .svg && isSingle box) = isShareable :=
    funext fun box => Bool.and_comm _ _
  rw [Tables.ofScene, countedDeclarations]
  dsimp only
  rw [List.filter_filter, both]

theorem namedShared_ofScene (settings : Settings) (nodes : List (SceneNode α)) :
    NamedShared (Tables.ofScene .content settings nodes).shared := by
  rw [shared_ofScene]
  intro shared member
  obtain ⟨found, -, made⟩ := SharedTable.madeFrom_of_mem_build member
  exact ⟨found.stableKey, made.name⟩

/-- After the passes an element declares what they leave, what they moved and what the rule of
the shared class declares. -/
theorem Passes.declared_eq {box : SceneBox α} {whole rest : Css.Declarations}
    {moved : List Css.Declaration} {found : Extraction}
    (passes : Passes (.ofScene .content settings nodes) box whole rest moved found)
    (distinct : used.names.Nodup) (known : found.utilities ++ found.sizes ⊆ used.names) :
    found.declared (classRules (.ofScene .content settings nodes) used) =
      found.inline.toList ++ (moved ++ found.shared.toList.flatMap
        (ClassRule.declared (sharedRules (Tables.ofScene .content settings nodes).shared))) := by
  have named := namedShared_ofScene settings nodes
  have stands : (found.utilities ++ found.sizes).flatMap (ClassRule.declared
      (classRules (.ofScene .content settings nodes) used)) = moved :=
    passes.stand.flatMap_declared fun _ member _ meaning =>
      declared_utility named distinct (known member) meaning
  rw [Extraction.declared, Extraction.classes, List.flatMap_append, stands]
  rcases passes.shared with ⟨none, -⟩ | ⟨-, -, -, shared, member, -, some, -⟩
  · simp [none]
  · simp [some, declared_shared named member]

/-- Extraction loses nothing: the style and the rules declare the whole, each name in one place,
and every class has its rule. -/
structure LosesNothing (rules : List ClassRule) (whole : Css.Declarations) (found : Extraction) :
    Prop where
  kept : (found.declared rules).Perm whole.toList
  once : (Css.names (found.declared rules)).Nodup
  ruled : ∀ name ∈ found.classes, ∃ rule ∈ rules, rule.name = name

private theorem Passes.perm {box : SceneBox α} {whole rest : Css.Declarations}
    {moved : List Css.Declaration} {found : Extraction}
    (passes : Passes (.ofScene .content settings nodes) box whole rest moved found)
    (apart : PatternsApart (countedDeclarations nodes)) (inside : box ∈ SceneNode.preorders nodes)
    (distinct : used.names.Nodup) (known : found.utilities ++ found.sizes ⊆ used.names) :
    (found.declared (classRules (.ofScene .content settings nodes) used)).Perm whole.toList := by
  rw [passes.declared_eq distinct known]
  refine List.Perm.trans ?_ passes.kept
  rcases passes.shared with ⟨none, left⟩ |
    ⟨shareable, same, inhabited, shared, member, key, some, left⟩
  · simp [none, left]
  · rw [shared_ofScene] at member ⊢
    have counted : pattern rest ∈ patterns (countedDeclarations nodes) := by
      refine List.mem_filter.mpr ⟨?_, by simp [inhabited]⟩
      rw [same]
      exact List.mem_map_of_mem (List.mem_map_of_mem (List.mem_filter.mpr ⟨inside, shareable⟩))
    -- The class was made from a pattern with this key, which is the pattern of this box.
    have declares := (declared_sharedRules (SharedTable.nodup_names_build apart) member).trans
      (SharedTable.declarations_perm apart member counted key)
    rw [some, left, Option.toList_some, List.flatMap_singleton]
    refine ((declares.append_left moved).append_left _).trans ?_
    -- The moved declarations and the pattern change places to join what they were taken from.
    refine (List.perm_append_comm.append_left _).trans ?_
    rw [← List.append_assoc]
    exact (perm_pattern rest).append_right moved

private theorem Passes.ruled {box : SceneBox α} {whole rest : Css.Declarations}
    {moved : List Css.Declaration} {found : Extraction}
    (passes : Passes (.ofScene .content settings nodes) box whole rest moved found)
    (known : found.utilities ++ found.sizes ⊆ used.names) :
    ∀ name ∈ found.classes,
      ∃ rule ∈ classRules (.ofScene .content settings nodes) used, rule.name = name := by
  intro name member
  rcases List.mem_append.mp member with utility | shared
  · obtain ⟨declaration, meaning⟩ := passes.stand.exists_of_mem utility
    exact ⟨_, List.mem_append_left _ (mem_utilityRules (known utility) meaning), rfl⟩
  · rcases passes.shared with ⟨none, -⟩ | ⟨-, -, -, counted, listed, -, some, -⟩
    · simp [none] at shared
    · obtain rfl : name = counted.name := by simpa [some] using shared
      exact ⟨_, List.mem_append_right _ (List.mem_map_of_mem listed), rfl⟩

/-- The element that carries a box in the content: the classes of the passes are the last of its
classes, and its style is what they leave. -/
structure CarriesExtraction (tables : Tables) (box : SceneBox α) (head : Head)
    (found : Extraction) : Prop where
  extracted : Extraction.ofBox tables box = .ok found
  classes : head.attribute? "class" =
    some (classAttribute (kindClasses box ++ semanticClass box ++ found.classes))
  style : head.attribute? "style" = styleText? found.inline

/-- The styling of the element that carries a box in the content. -/
def Extraction.styling (box : SceneBox α) (found : Extraction) : Styling where
  classes := kindClasses box ++ semanticClass box ++ found.classes
  utilities := found.utilities ++ found.sizes
  css := found.inline

private theorem styling_content {tables : Tables} (content : tables.mode = .content)
    (box : SceneBox α) (bag : Css.Declarations) :
    styling tables box (sizeNames (ownSizes tables box)) (isShareable box) bag =
      (Extraction.ofBag tables box bag).styling box := by
  rw [styling, content]
  simp only [contentStyling, Extraction.styling, Extraction.classes, Extraction.ofBag,
    List.append_assoc]

/-- In the content a box is styled by its extraction. -/
theorem boxStyling_content_iff {tables : Tables} (content : tables.mode = .content)
    {box : SceneBox α} {styled : Styling × Option Css.Declarations} :
    boxStyling tables box = .ok styled ↔
      ∃ found outer, Extraction.ofBox tables box = .ok found ∧ outerDeclarations box = .ok outer ∧
        styled = (found.styling box, outer) := by
  rw [boxStyling_eq_ok_iff, Extraction.ofBox]
  simp only [styling_content content]
  cases carriedCss tables box <;> simp [Except.map]

/-- The classes of a box that need rules are those of its first two passes. -/
theorem NeedsRule.content {tables : Tables} (content : tables.mode = .content) {box : SceneBox α}
    {name : String} (needs : NeedsRule tables box name) :
    ∃ found, Extraction.ofBox tables box = .ok found ∧ name ∈ found.utilities ++ found.sizes := by
  obtain ⟨styled, css, boxed, member⟩ := needs
  obtain ⟨found, _, extracted, -, same⟩ := (boxStyling_content_iff content).mp boxed
  cases same
  exact ⟨found, extracted, member⟩

/-- The heads of a box in the content. -/
theorem StyledAs.content {tables : Tables} (content : tables.mode = .content) {names : List String}
    {box : SceneBox α} {outer : Option Head} {head : Head}
    (styled : StyledAs tables names box outer head) :
    ∃ found css, CarriesExtraction tables box head found ∧
      found.utilities ++ found.sizes ⊆ names ∧ outerDeclarations box = .ok css ∧
      outer = css.map fun css => plainHead (wrapperAttributes .content box css) [] := by
  obtain ⟨styling, css, text, boxed, known, rfl, rfl⟩ := styled
  obtain ⟨found, _, extracted, surrounded, same⟩ := (boxStyling_content_iff content).mp boxed
  cases same
  refine ⟨found, css, ⟨extracted, ?_, ?_⟩, known, surrounded, by rw [content]⟩
  · exact attribute?_plainHead _ _ _
  · exact (attribute?_plainHead _ _ _).trans (style_boxAttributes _ _ _)

/-! ### Every element of the content -/

/-- The stylesheet is made of the rules of pseudo-elements and of classes in use, and with these
rules the extraction loses nothing at any box of the scene. -/
def KeepsDeclarations (settings : Settings) (scene : CompiledScene α) (markup : RenderedMarkup) :
    Prop :=
  ∃ used : UtilitySet,
    markup.css = String.intercalate "\n" (scene.rules.texts ++
      (classRules (.ofScene .content settings scene.nodes) used).map ClassRule.text) ∧
    List.Forall₂ (Draws fun box _ head => ∃ whole found, wholeCss box = .ok whole ∧
      CarriesExtraction (.ofScene .content settings scene.nodes) box head found ∧
      LosesNothing (classRules (.ofScene .content settings scene.nodes) used) whole found)
      scene.nodes markup.elements

/-- The extraction of classes loses no style: every element of the content declares, in its style
and through the rules of the classes that the passes attach to it, exactly what its box declares. -/
theorem class_extraction_loses_nothing {template : String} {provider : FontProvider}
    {composition : Composition α} {scene : CompiledScene α} {markup : RenderedMarkup}
    (compiled : compileComposition template provider composition = .ok scene)
    (apart : PatternsApart (countedDeclarations scene.nodes))
    (rendered : renderScene .content settings scene = .ok markup) :
    KeepsDeclarations settings scene markup := by
  obtain ⟨used, drawn, written⟩ := renderScene_cases rendered
  refine ⟨used, written.trans (contentCss_eq scene rfl), ?_⟩
  refine forall₂_imp_of_mem drawn.draws fun node member element draws => ?_
  refine draws.mono node element fun box inside outer head styled => ?_
  obtain ⟨found, _, carries, known, -⟩ := styled.content rfl
  have inside := mem_preorders_of_mem member inside
  have tidy := tidy_of_compiled compiled box inside
  obtain ⟨whole, rest, moved, styled, passes⟩ := passes_ofBox tidy carries.extracted
  have perm := passes.perm apart inside drawn.distinct known
  exact ⟨whole, found, styled, carries,
    ⟨perm, (perm.map Prod.fst).nodup_iff.mpr whole.distinct, passes.ruled known⟩⟩

end Content

def fadedNode (id : String) (map : Affine Rat) : Node Rat :=
  let props := plainProps id "RECTANGLE" map
  .mk { props with style := { props.style with opacity := 1 / 2 } } []

/-- A row of three faded nodes of one size. The second is turned and so wrapped. -/
def fadedRow : Composition Rat where
  name := "row"
  absOrigin := some ⟨0, 0⟩
  bounds := none
  children :=
    [.mk { plainProps "row" "FRAME" ⟨1, 0, 0, 1, 0, 0⟩ with
           layoutMode := .horizontal, itemSpacing := 4 }
      [fadedNode "first" ⟨1, 0, 0, 1, 0, 0⟩, fadedNode "turned" ⟨0, 1, -1, 0, 30, 0⟩,
       fadedNode "last" ⟨1, 0, 0, 1, 28, 0⟩]]

/-- The classes that the passes attach to each box. -/
def attachedClasses (settings : Settings) (scene : CompiledScene α) :
    List (Option (List String)) :=
  (SceneNode.preorders scene.nodes).map fun box =>
    (Extraction.ofBox (.ofScene .content settings scene.nodes) box).toOption.map
      Extraction.classes

def fadedRowClasses : List (Option (List String)) :=
  [some ["flex", "items-start", "gap-[4px]", "w-[10px]", "h-[20px]"],
   some ["w-[10px]", "h-[20px]", "sc-e1549fdc"], some [],
   some ["w-[10px]", "h-[20px]", "sc-e1549fdc"]]

theorem fadedRow_keeps_declarations :
    ∃ scene markup, compileComposition "" (fun _ => none) fadedRow = .ok scene ∧
      PatternsApart (countedDeclarations scene.nodes) ∧
      renderScene .content .default scene = .ok markup ∧
      attachedClasses .default scene = fadedRowClasses ∧
      KeepsDeclarations .default scene markup := by
  obtain ⟨scene, compiled, holds⟩ := Except.exists_of_any
    (fun scene => decide (PatternsApart (countedDeclarations scene.nodes)) &&
      decide (attachedClasses .default scene = fadedRowClasses) &&
      (renderScene .content .default scene).toOption.any fun _ => true)
    (show (compileComposition "" (fun _ => none) fadedRow).toOption.any _ = true by
      decide +kernel)
  simp only [Bool.and_eq_true, decide_eq_true_eq] at holds
  obtain ⟨⟨apart, classes⟩, drawn⟩ := holds
  obtain ⟨markup, rendered, -⟩ := Except.exists_of_any _ drawn
  exact ⟨scene, markup, compiled, apart, rendered, classes,
    class_extraction_loses_nothing compiled apart rendered⟩

end Artboard.Render
