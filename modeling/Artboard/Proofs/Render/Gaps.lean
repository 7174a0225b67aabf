import Artboard.Proofs.Classes.Sheet
import Artboard.Proofs.Render.Extraction

/-!
# Gaps that apply

A box may declare a gap and a gap for one axis, which then overrides it there. The
shorthand is declared first, and its rule comes first in the stylesheet too, so that
the same gaps apply when classes have taken their place.
-/
namespace Artboard.Render

open Css.Declarations Classes Markup

variable {α : Type} [Scalar α]

/-! ### The last valid declaration -/

def gapLonghands : List String := ["row-gap", "column-gap"]

/-- The declaration sets the gap that the longhand names. A negative length is no gap. -/
def setsGap (longhand : String) (declaration : Css.Declaration) : Bool :=
  (declaration.1 == "gap" || declaration.1 == longhand) &&
    declaration.2.toList.head? != some '-'

/-- Of declarations with one weight the last one applies. -/
def appliedGap (longhand : String) (declarations : List Css.Declaration) : Option String :=
  ((declarations.filter (setsGap longhand)).getLast?).map Prod.snd

/-- No longhand stands before the shorthand. -/
def ShorthandFirst (declarations : List Css.Declaration) : Prop :=
  declarations.Pairwise fun earlier later => earlier.1 ∈ gapLonghands → later.1 ≠ "gap"

theorem setsGap_cases {longhand : String} {declaration : Css.Declaration}
    (sets : setsGap longhand declaration = true) :
    (declaration.1 = "gap" ∨ declaration.1 = longhand) ∧
      declaration.2.toList.head? ≠ some '-' := by
  simpa [setsGap] using sets

theorem gap_of_setsGap {longhand : String} (known : longhand ∈ gapLonghands)
    {declaration : Css.Declaration} (sets : setsGap longhand declaration = true) :
    declaration.1 ∈ gapProperties := by
  have longhands : ∀ name ∈ gapLonghands, name ∈ gapProperties := by decide
  rcases (setsGap_cases sets).1 with same | same
  · rw [same]
    decide
  · rw [same]
    exact longhands longhand known

/-- Declarations of the same gaps, the shorthand first, let the same gap apply. -/
theorem appliedGap_eq {longhand : String} (known : longhand ∈ gapLonghands)
    {first second : List Css.Declaration}
    (perm : (first.filter (setsGap longhand)).Perm (second.filter (setsGap longhand)))
    (distinct : (Css.names second).Nodup) (ordered : ShorthandFirst (first.filter (setsGap longhand)))
    (others : ShorthandFirst second) :
    appliedGap longhand first = appliedGap longhand second := by
  have names : ((second.filter (setsGap longhand)).map Prod.fst).Nodup :=
    distinct.sublist (List.filter_sublist.map _)
  rw [appliedGap, appliedGap, List.Perm.eq_of_pairwise ?_ ordered
    (List.Pairwise.sublist List.filter_sublist others) perm]
  intro one other here there before behind
  replace here := perm.subset here
  have sets := (setsGap_cases (List.mem_filter.mp here).2).1
  have setsOther := (setsGap_cases (List.mem_filter.mp there).2).1
  -- Of a shorthand and a longhand each would stand before the other.
  have same : one.1 = other.1 := by
    rcases sets with gap | long <;> rcases setsOther with gap' | long'
    · rw [gap, gap']
    · exact absurd gap (behind (long' ▸ known))
    · exact absurd gap' (before (long ▸ known))
    · rw [long, long']
  exact List.inj_on_of_nodup_map names here there same

/-! ### What a box declares -/

def isGapName (name : String) : Bool := gapProperties.contains name

/-- The gaps of a container, as far as it has them. -/
def gapDeclarations (flex : FlexContainer α) : List Css.Declaration :=
  pxDeclaration "gap" flex.gap ++ (pxDeclaration "row-gap" flex.rowGap ++
    pxDeclaration "column-gap" flex.columnGap)

theorem shorthandFirst_gapDeclarations (flex : FlexContainer α) :
    ShorthandFirst (gapDeclarations flex) := by
  rw [ShorthandFirst, gapDeclarations]
  cases flex.gap <;> cases flex.rowGap <;> cases flex.columnGap <;>
    simp [pxDeclaration, gapLonghands]

private theorem distinct_gapDeclarations (flex : FlexContainer α) :
    (Css.names (gapDeclarations flex)).Nodup := by
  rw [gapDeclarations]
  cases flex.gap <;> cases flex.rowGap <;> cases flex.columnGap <;>
    simp [pxDeclaration, Css.names]

private theorem filter_given {name : String} (other : isGapName name = false)
    (value : Option String) :
    (givenDeclaration name value).filter (fun declaration => isGapName declaration.1) = [] := by
  rw [List.filter_eq_nil_iff]
  intro declaration member
  rw [mem_givenDeclaration member, other]
  decide

private theorem filter_px {name : String} (gap : isGapName name = true) (value : Option α) :
    (pxDeclaration name value).filter (fun declaration => isGapName declaration.1) =
      pxDeclaration name value := by
  rw [List.filter_eq_self]
  intro declaration member
  obtain ⟨length, rfl⟩ := mem_pxDeclaration member
  exact gap

private theorem filter_flexDeclarations (layout : Layout α) :
    layout.flexDeclarations.filter (fun declaration => isGapName declaration.1) =
      gapDeclarations layout.container := by
  simp only [Layout.flexDeclarations, List.filter_append,
    filter_given (show isGapName "flex-direction" = false by decide),
    filter_given (show isGapName "justify-content" = false by decide),
    filter_given (show isGapName "align-items" = false by decide),
    filter_given (show isGapName "flex-wrap" = false by decide),
    filter_px (show isGapName "gap" = true by decide),
    filter_px (show isGapName "row-gap" = true by decide),
    filter_px (show isGapName "column-gap" = true by decide), gapDeclarations]
  simp [isGapName, gapProperties]

/-- The gaps that a layout declares are those of its container. -/
theorem gaps_containerCss (layout : Layout α) :
    (layout.containerCss.filter isGapName).toList.Sublist (gapDeclarations layout.container) := by
  have padding : isGapName "padding" = false := by decide
  rw [Layout.containerCss, filter_ofList]
  cases layout.padding
  all_goals
    simp only [List.filter_append, List.filter_cons, List.filter_nil, padding, Bool.false_eq_true,
      if_false, filter_given (show isGapName "box-sizing" = false by decide),
      filter_given (show isGapName "overflow" = false by decide), List.append_nil]
    split
    · rw [filter_flexDeclarations, toList_ofList (distinct_gapDeclarations _)]
    · simp [ofList, setAll, empty]

private theorem gaps_visualCss {template : String} {root : Affine α} {entry : Entry α}
    {box : SceneBox α} (compiled : CompiledAs template root entry box) :
    ((visualCss box).filter isGapName).toList.Sublist (gapDeclarations box.layout.container) := by
  have names : ∀ name ∈ boxProperties, isGapName name = false := by decide +kernel
  have look : box.declarations.filter isGapName = empty :=
    filter_eq_empty fun declaration member =>
      names _ ((within_declarations compiled).mem member)
  rw [visualCss]
  split
  · rw [filter_update, look]
    exact gaps_containerCss box.layout
  · rw [look]
    exact List.nil_sublist _

private theorem filter_gap_eq_nil {declarations : List Css.Declaration}
    (others : ∀ name ∈ Css.names declarations, isGapName name = false) :
    declarations.filter (fun declaration => isGapName declaration.1) = [] :=
  List.filter_eq_nil_iff.mpr fun declaration member => by
    simp [others _ (List.mem_map_of_mem member)]

/-- Gaps that are added to a bag without gaps are all that it has. -/
private theorem gaps_update {bag : Css.Declarations} (none : bag.filter isGapName = empty)
    (other : Css.Declarations) : (bag.update other).filter isGapName = other.filter isGapName := by
  rw [filter_update, none, empty_update]

private theorem filter_place {place : List Css.Declaration}
    (names : ∀ declaration ∈ place, declaration.1 ∈ placeProperties) :
    place.filter (fun declaration => isGapName declaration.1) = [] := by
  have places : ∀ name ∈ placeProperties, isGapName name = false := by decide
  refine filter_gap_eq_nil fun name member => ?_
  obtain ⟨declaration, here, rfl⟩ := List.mem_map.mp member
  exact places _ (names declaration here)

private theorem gaps_filter (keep : String → Bool) (bag : Css.Declarations) :
    ((bag.filter keep).filter isGapName).toList.Sublist (bag.filter isGapName).toList :=
  List.filter_sublist.filter _

private theorem gaps_prune (context : BoxContext) (bag : Css.Declarations) :
    ((context.prune bag).filter isGapName).toList.Sublist (bag.filter isGapName).toList := by
  rw [filter_prune, toList_prune]
  exact List.filter_sublist

/-- Neither the place nor the size of a box nor its part in the flow has a gap. -/
private theorem gaps_sizedCss {box : SceneBox α} {whole : Css.Declarations}
    (styled : sizedCss box (sizeDeclarations box.layout) = .ok whole) :
    (whole.filter isGapName).toList.Sublist ((visualCss box).filter isGapName).toList := by
  obtain ⟨place, placed, styled⟩ := Except.bind_eq_ok_iff.mp styled
  cases styled
  have items : ∀ name ∈ itemProperties, isGapName name = false := by decide
  have started : (Css.Declarations.ofList (place ++ sizeDeclarations box.layout)).filter isGapName =
      empty := by
    rw [filter_ofList, List.filter_append, filter_place (positionDeclarations_names placed)]
    rfl
  refine (gaps_prune _ _).trans ?_
  rw [gaps_update]
  rw [gaps_update started]
  exact filter_eq_empty fun declaration member => items _ ((within_itemCss _).mem member)

private theorem gaps_innerCss {box : SceneBox α} {wrapper : Wrapper α} {inner : Css.Declarations}
    (started : innerCss box wrapper = .ok inner) :
    (inner.filter isGapName).toList.Sublist ((visualCss box).filter isGapName).toList := by
  obtain ⟨centering, centered, started⟩ := Except.bind_eq_ok_iff.mp started
  cases started
  rw [gaps_update]
  · exact gaps_filter _ _
  · rw [filter_ofList, List.filter_append, List.filter_append,
      filter_place (centeringDeclarations_names centered)]
    rfl

private theorem gaps_migrateShadows (inner outer : Css.Declarations) :
    ((migrateShadows inner outer).1.filter isGapName).toList.Sublist
      (inner.filter isGapName).toList := by
  have other : isGapName "box-shadow" = false := by decide
  unfold migrateShadows
  dsimp only
  split
  · exact List.Sublist.refl _
  · dsimp only
    split
    · exact gaps_filter _ _
    · rw [filter_set, other]
      exact List.Sublist.refl _

/-- A box declares no gaps but those of its container, and in their order. -/
theorem gaps_wholeCss {template : String} {root : Affine α} {entry : Entry α} {box : SceneBox α}
    (compiled : CompiledAs template root entry box) {whole : Css.Declarations}
    (styled : wholeCss box = .ok whole) :
    (whole.filter isGapName).toList.Sublist (gapDeclarations box.layout.container) := by
  refine List.Sublist.trans ?_ (gaps_visualCss compiled)
  rw [wholeCss] at styled
  split at styled
  · exact gaps_sizedCss styled
  next wrapper _ =>
    cases wrapped : wrappedCss box wrapper with
    | error fault =>
      rw [wrapped] at styled
      contradiction
    | ok found =>
      rw [wrapped] at styled
      cases styled
      obtain ⟨inner, started, wrapped⟩ := Except.bind_eq_ok_iff.mp wrapped
      refine List.Sublist.trans ?_ (gaps_innerCss started)
      dsimp only at wrapped
      split at wrapped <;> cases wrapped
      · exact gaps_prune _ _
      · exact (gaps_prune _ _).trans (gaps_migrateShadows _ _)

theorem shorthandFirst_wholeCss {template : String} {root : Affine α} {entry : Entry α}
    {box : SceneBox α} (compiled : CompiledAs template root entry box) {whole : Css.Declarations}
    (styled : wholeCss box = .ok whole) : ShorthandFirst whole.toList := by
  have longhands : ∀ name ∈ gapLonghands, isGapName name = true := by decide
  have gaps := (shorthandFirst_gapDeclarations _).sublist (gaps_wholeCss compiled styled)
  refine (List.pairwise_filter.mp gaps).imp fun {earlier later} first long short => ?_
  exact first (longhands _ long) (by rw [short]; decide) long short

/-! ### What applies after the extraction -/

/-- What applies to an element: the rules of its classes in their order, and over these its
style. -/
def Extraction.applied (rules : List ClassRule) (found : Extraction) : List Css.Declaration :=
  (rules.filter fun rule => found.classes.contains rule.name).flatMap
    (fun rule => rule.declarations.toList) ++ found.inline.toList

/-- The utility pass leaves nothing that has a class. -/
theorem utilityClass?_inline {tables : Tables} {box : SceneBox α} {found : Extraction}
    (extracted : Extraction.ofBox tables box = .ok found) :
    ∀ declaration ∈ found.inline.toList, utilityClass? declaration = none := by
  rw [Extraction.ofBox] at extracted
  cases carried : carriedCss tables box with
  | error fault =>
    rw [carried] at extracted
    contradiction
  | ok bag =>
    rw [carried] at extracted
    cases extracted
    have left : ∀ declaration ∈ (splitUtilities bag).2.toList, utilityClass? declaration = none := by
      intro declaration member
      rw [toList_splitUtilities] at member
      simpa using (List.mem_filter.mp member).2
    intro declaration member
    rw [Extraction.ofBag] at member
    dsimp only at member
    split at member
    · rcases tables.shared.apply_cases (splitUtilities bag).2 with same | ⟨-, _, -, -, same⟩
      · rw [same] at member
        exact left _ member
      · rw [same] at member
        exact left _ (List.mem_of_mem_filter member)
    · exact left _ member

section Content

variable {settings : Settings} {nodes : List (SceneNode α)} {used : UtilitySet} {box : SceneBox α}
  {whole rest : Css.Declarations} {moved : List Css.Declaration} {found : Extraction}
  {longhand : String}

/-- Shared classes have no gaps. -/
private theorem filter_sharedRules (known : longhand ∈ gapLonghands) :
    (((sharedRules (Tables.ofScene .content settings nodes).shared).filter fun rule =>
      found.classes.contains rule.name).flatMap fun rule => rule.declarations.toList).filter
        (setsGap longhand) = [] := by
  have names : ∀ name ∈ gapProperties, name ∉ sharedProperties := by decide
  rw [List.filter_eq_nil_iff]
  intro declaration member sets
  obtain ⟨rule, listed, here⟩ := List.mem_flatMap.mp member
  obtain ⟨shared, counted, -, inside⟩ := mem_declared_sharedRules
    (ClassRule.mem_declared.mpr ⟨rule, List.mem_of_mem_filter listed, rfl, here⟩)
  rw [shared_ofScene] at counted
  obtain ⟨pattern, counted, made⟩ := SharedTable.madeFrom_of_mem_build counted
  obtain ⟨bag, -, rfl⟩ := List.mem_map.mp (List.mem_of_mem_filter counted)
  rw [made.declarations] at inside
  exact names _ (gap_of_setsGap known sets) (by simpa using (List.mem_filter.mp inside).2)

/-- The rules of utility classes, for these classes alone. -/
private theorem flatMap_utilityRules (own : List String) (used : UtilitySet) :
    ((utilityRules used).filter fun rule => own.contains rule.name).flatMap
        (fun rule => rule.declarations.toList) =
      (used.ordered.filter own.contains).filterMap declarationOf := by
  rw [utilityRules]
  induction used.ordered with
  | nil => rfl
  | cons name rest ih =>
    rw [List.filterMap_cons, List.filter_cons]
    cases meaning : declarationOf name with
    | none =>
      rw [Option.map_none, ih]
      split
      · rw [List.filterMap_cons, meaning]
      · rfl
    | some declaration =>
      have alone : (Css.Declarations.ofList [declaration]).toList = [declaration] :=
        toList_ofList (by simp [Css.names])
      rw [Option.map_some, List.filter_cons]
      split
      · rw [List.flatMap_cons, List.filterMap_cons, meaning, ih, alone]
        rfl
      · exact ih

/-- The rules of the element's utility classes declare what the passes have moved. -/
private theorem perm_moved
    (passes : Passes (.ofScene .content settings nodes) box whole rest moved found)
    (distinct : used.names.Nodup) (known : found.utilities ++ found.sizes ⊆ used.names) :
    ((used.ordered.filter found.classes.contains).filterMap declarationOf).Perm moved := by
  have fresh : moved.Nodup :=
    (List.nodup_append.mp (passes.kept.nodup_iff.mpr (List.Nodup.of_map _ whole.distinct))).2.1
  have single : (found.utilities ++ found.sizes).Nodup :=
    .of_map declarationOf (passes.stand ▸ fresh.map (Option.some_injective _))
  have own : (used.ordered.filter (found.utilities ++ found.sizes).contains).Perm
      (found.utilities ++ found.sizes) := by
    rw [List.perm_ext_iff_of_nodup ((UtilitySet.nodup_ordered distinct).filter _) single]
    intro name
    rw [List.mem_filter, UtilitySet.mem_ordered, List.contains_iff_mem]
    exact ⟨And.right, fun member => ⟨known member, member⟩⟩
  have meanings : (found.utilities ++ found.sizes).filterMap declarationOf = moved := by
    have stand := congrArg (List.filterMap id) passes.stand
    rwa [List.filterMap_map, List.filterMap_map, Function.id_comp, Function.id_comp,
      List.filterMap_some] at stand
  -- The shared class has no rule among these.
  have others : (used.ordered.filter found.classes.contains).filterMap declarationOf =
      (used.ordered.filter (found.utilities ++ found.sizes).contains).filterMap declarationOf := by
    have unnamed : ∀ name ∈ found.shared, declarationOf name = none := by
      intro name shared
      cases meaning : declarationOf name with
      | none => rfl
      | some declaration =>
        rcases passes.shared with ⟨none, -⟩ | ⟨-, -, -, counted, listed, -, some, -⟩
        · rw [none] at shared
          cases shared
        · obtain rfl : counted.name = name := by simpa [some] using shared
          obtain ⟨key, same⟩ := namedShared_ofScene settings nodes counted listed
          exact absurd (same ▸ prefix_sharedName key) (not_prefix_of_declarationOf meaning)
    rw [List.filterMap_filter, List.filterMap_filter]
    refine List.filterMap_congr fun name _ => ?_
    rw [Extraction.classes, List.contains_append]
    cases utility : (found.utilities ++ found.sizes).contains name with
    | true => rfl
    | false =>
      cases shared : found.shared.toList.contains name with
      | false => rfl
      | true => simpa using unnamed name (by simpa using shared)
  rw [others, ← meanings]
  exact own.filterMap _

/-- Names in the order of the stylesheet stand for declarations with the shorthand first. -/
private theorem shorthandFirst_ordered (used : UtilitySet) (own : String → Bool) :
    ShorthandFirst ((used.ordered.filter own).filterMap declarationOf) := by
  have long : ∀ name ∈ gapLonghands, name ∈ gapProperties ∧
      ∀ start, (name, start) ∈ lengthUtilities → start = "gap-x" ∨ start = "gap-y" := by
    simp [gapLonghands, gapProperties, lengthUtilities]
  have short : "gap" ∈ gapProperties ∧
      ∀ start, ("gap", start) ∈ lengthUtilities → start = "gap" := by
    simp [gapProperties, lengthUtilities]
  refine List.Pairwise.filterMap _ ?_
    ((UtilitySet.pairwise_ordered used).sublist List.filter_sublist)
  intro earlier later ordered declaration meaning other means longhand shorthand
  obtain ⟨start, known, first⟩ := measuredBy_of_declarationOf meaning (long _ longhand).1
  obtain ⟨_, unit, second⟩ := measuredBy_of_declarationOf means (shorthand ▸ short.1)
  obtain rfl := short.2 _ (shorthand ▸ unit)
  rcases (long _ longhand).2 _ known with rfl | rfl
  · exact ordered (.inl first) second
  · exact ordered (.inr first) second

/-- The passes leave no gap that applies in the style. -/
private theorem filter_rest (tidy : Tidy box) (styled : wholeCss box = .ok whole)
    (extracted : Extraction.ofBox (.ofScene .content settings nodes) box = .ok found)
    (passes : Passes (.ofScene .content settings nodes) box whole rest moved found)
    (known : longhand ∈ gapLonghands) : rest.toList.filter (setsGap longhand) = [] := by
  have unshared : ∀ name ∈ gapProperties, name ∉ sharedProperties := by decide
  rw [List.filter_eq_nil_iff]
  intro declaration member sets
  have gap := gap_of_setsGap known sets
  obtain ⟨length, pixels⟩ := gaps_of_wholeCss tidy styled declaration
    (passes.kept.subset (List.mem_append_left _ member)) gap
  have classed := isSome_utilityClass? gap pixels (setsGap_cases sets).2
  have inline : declaration ∈ found.inline.toList := by
    rcases passes.shared with ⟨-, same⟩ | ⟨-, -, -, _, -, -, -, same⟩
    · exact same ▸ member
    · rw [same]
      exact List.mem_filter.mpr ⟨member, by simpa using unshared _ gap⟩
  rw [utilityClass?_inline extracted declaration inline] at classed
  cases classed

/-- The gaps that apply to an element are those that its box declares, and its style has none of
them. -/
theorem appliedGap_applied {template : String} {root : Affine α} {entry : Entry α}
    (compiled : CompiledAs template root entry box) (styled : wholeCss box = .ok whole)
    (extracted : Extraction.ofBox (.ofScene .content settings nodes) box = .ok found)
    (passes : Passes (.ofScene .content settings nodes) box whole rest moved found)
    (distinct : used.names.Nodup) (inUse : found.utilities ++ found.sizes ⊆ used.names)
    (known : longhand ∈ gapLonghands) :
    appliedGap longhand found.inline.toList = none ∧
      appliedGap longhand (found.applied (classRules (.ofScene .content settings nodes) used)) =
        appliedGap longhand whole.toList := by
  have left := filter_rest (tidy_of_compiledAs compiled) styled extracted passes known
  have inline : found.inline.toList.filter (setsGap longhand) = [] := by
    rcases passes.shared with ⟨-, same⟩ | ⟨-, -, -, _, -, -, -, same⟩
    · rw [same, left]
    · exact List.sublist_nil.mp (left ▸ same ▸ List.filter_sublist.filter _)
  have ruled : (found.applied (classRules (.ofScene .content settings nodes) used)).filter
        (setsGap longhand) =
      ((used.ordered.filter found.classes.contains).filterMap declarationOf).filter
        (setsGap longhand) := by
    rw [Extraction.applied, classRules, List.filter_append, List.filter_append, List.flatMap_append,
      List.filter_append, filter_sharedRules known, inline, flatMap_utilityRules, List.append_nil,
      List.append_nil]
  refine ⟨by rw [appliedGap, inline]; rfl, appliedGap_eq known ?_ whole.distinct ?_
    (shorthandFirst_wholeCss compiled styled)⟩
  · have declared := passes.kept.filter (setsGap longhand)
    rw [List.filter_append, left, List.nil_append] at declared
    rw [ruled]
    exact ((perm_moved passes distinct inUse).filter _).trans declared
  · rw [ruled]
    exact (shorthandFirst_ordered used _).sublist List.filter_sublist

end Content

/-- The content is drawn with the rules of classes in use. Each box declares the shorthand of its
gaps before the longhands, and the rules give each of its elements the same gaps, to which the style
adds none. -/
def KeepsGaps (settings : Settings) (scene : CompiledScene α) (markup : RenderedMarkup) : Prop :=
  ∃ used : UtilitySet,
    markup.css = String.intercalate "\n" (scene.rules.texts ++
      (classRules (.ofScene .content settings scene.nodes) used).map ClassRule.text) ∧
    List.Forall₂ (Draws fun box _ head => ∃ whole found, wholeCss box = .ok whole ∧
      CarriesExtraction (.ofScene .content settings scene.nodes) box head found ∧
      ShorthandFirst whole.toList ∧ ∀ longhand ∈ gapLonghands,
        appliedGap longhand found.inline.toList = none ∧
        appliedGap longhand
            (found.applied (classRules (.ofScene .content settings scene.nodes) used)) =
          appliedGap longhand whole.toList)
      scene.nodes markup.elements

/-- The stylesheet of utility classes depends on which classes are in use, and on nothing else. It
has one rule for each of them that stands for a declaration, with shorthands before longhands, so
that in the content the same gaps apply to every box as it declares. -/
theorem utility_sheet_keeps_gaps {template : String} {provider : FontProvider}
    {composition : Composition α} {scene : CompiledScene α} {settings : Settings}
    {markup : RenderedMarkup}
    (compiled : compileComposition template provider composition = .ok scene)
    (rendered : renderScene .content settings scene = .ok markup) :
    (∀ scope (groups others : List (List String)),
        (∀ name, name ∈ groups.flatten ↔ name ∈ others.flatten) →
        (UtilitySet.ofGroups groups).css scope = (UtilitySet.ofGroups others).css scope) ∧
      (∀ scope groups, ∃ names,
        UtilitySet.SheetOf scope groups names ((UtilitySet.ofGroups groups).css scope)) ∧
      KeepsGaps settings scene markup := by
  refine ⟨fun scope groups others => UtilitySet.css_congr scope, UtilitySet.exists_sheetOf, ?_⟩
  obtain ⟨used, drawn, written⟩ := renderScene_cases rendered
  refine ⟨used, written.trans (contentCss_eq scene rfl), ?_⟩
  refine forall₂_imp_of_mem drawn.draws fun node member element draws => ?_
  refine draws.mono node element fun box inside outer head styled => ?_
  obtain ⟨found, _, carries, known, -⟩ := styled.content rfl
  obtain ⟨entry, -, compiledAs⟩ := exists_of_mem_right (forall₂_preorders (follows_walk compiled))
    (mem_preorders_of_mem member inside)
  obtain ⟨whole, rest, moved, styled, passes⟩ :=
    passes_ofBox (tidy_of_compiledAs compiledAs) carries.extracted
  exact ⟨whole, found, styled, carries, shorthandFirst_wholeCss compiledAs styled,
    fun longhand axis => appliedGap_applied compiledAs styled carries.extracted passes
      drawn.distinct known axis⟩

/-- A row that wraps, with a gap between its lines of its own. -/
def wrappingRow : Composition Rat where
  name := "row"
  absOrigin := some ⟨0, 0⟩
  bounds := none
  children :=
    [.mk { plainProps "row" "FRAME" .identity with
           layoutMode := .horizontal, wraps := true, itemSpacing := 4, counterAxisSpacing := 8 }
      [.mk (plainProps "first" "RECTANGLE" .identity) [],
       .mk (plainProps "last" "RECTANGLE" ⟨1, 0, 0, 1, 14, 0⟩) []]]

/-- The gaps that a box declares, for the lines and for the columns. -/
def declaredGaps (box : SceneBox Rat) : Option (List (Option String)) :=
  (wholeCss box).toOption.map fun whole => gapLonghands.map fun longhand =>
    appliedGap longhand whole.toList

def wrappingRowClasses : List (Option (List String)) :=
  [some ["flex", "items-start", "flex-wrap", "gap-[4px]", "gap-y-[8px]", "w-[10px]", "h-[20px]"],
   some ["w-[10px]", "h-[20px]"], some ["w-[10px]", "h-[20px]"]]

theorem wrappingRow_keeps_gaps :
    ∃ scene markup, compileComposition "" (fun _ => none) wrappingRow = .ok scene ∧
      renderScene .content .default scene = .ok markup ∧
      (SceneNode.preorders scene.nodes).map declaredGaps =
        [some [some "8px", some "4px"], some [none, none], some [none, none]] ∧
      attachedClasses .default scene = wrappingRowClasses ∧
      (∀ name, name ∈ [["gap-y-[8px]", "flex"], ["gap-[4px]"]].flatten ↔
        name ∈ [["flex", "gap-[4px]"], [], ["flex", "gap-y-[8px]"]].flatten) ∧
      (UtilitySet.ofGroups [["gap-y-[8px]", "flex"], ["gap-[4px]"]]).css "" =
        (UtilitySet.ofGroups [["flex", "gap-[4px]"], [], ["flex", "gap-y-[8px]"]]).css "" ∧
      KeepsGaps .default scene markup := by
  obtain ⟨scene, compiled, holds⟩ := Except.exists_of_any
    (fun scene => decide ((SceneNode.preorders scene.nodes).map declaredGaps =
        [some [some "8px", some "4px"], some [none, none], some [none, none]]) &&
      decide (attachedClasses .default scene = wrappingRowClasses) &&
      (renderScene .content .default scene).toOption.any fun _ => true)
    (show (compileComposition "" (fun _ => none) wrappingRow).toOption.any _ = true by
      decide +kernel)
  simp only [Bool.and_eq_true, decide_eq_true_eq] at holds
  obtain ⟨⟨gaps, classes⟩, drawn⟩ := holds
  obtain ⟨markup, rendered, -⟩ := Except.exists_of_any _ drawn
  obtain ⟨same, -, keeps⟩ := utility_sheet_keeps_gaps compiled rendered
  have members : ∀ name, name ∈ [["gap-y-[8px]", "flex"], ["gap-[4px]"]].flatten ↔
      name ∈ [["flex", "gap-[4px]"], [], ["flex", "gap-y-[8px]"]].flatten := by
    intro name
    simp
    tauto
  exact ⟨scene, markup, compiled, rendered, gaps, classes, members, same "" _ _ members, keeps⟩

end Artboard.Render
