import Artboard.Proofs.Scene.Images
import Mathlib.Data.List.Nodup

/-!
# Fonts of a scene

The fonts of a composition are the families that its segments ask for, each once
and in document order, with just the weights and the styles that are asked for. One
address asks the font service for all of them.
-/
namespace Artboard

open Css.Declarations Typography

variable {α : Type}

/-! ### Weights in order -/

theorem mem_insertSorted {value other : Int} {values : List Int} :
    other ∈ insertSorted value values ↔ other = value ∨ other ∈ values := by
  induction values with
  | nil => simp [insertSorted]
  | cons first rest ih =>
    rw [insertSorted]
    split
    · simp
    · split
      next same => simp [same]
      · simp only [List.mem_cons, ih]
        tauto

theorem pairwise_insertSorted {value : Int} {values : List Int}
    (ordered : values.Pairwise (· < ·)) : (insertSorted value values).Pairwise (· < ·) := by
  induction values with
  | nil => simp [insertSorted]
  | cons first rest ih =>
    obtain ⟨least, others⟩ := List.pairwise_cons.mp ordered
    rw [insertSorted]
    split
    next below =>
      have lower : ∀ other ∈ first :: rest, value < other :=
        List.forall_mem_cons.mpr ⟨below, fun other member => below.trans (least other member)⟩
      exact List.pairwise_cons.mpr ⟨lower, ordered⟩
    · split
      · exact ordered
      next above differs =>
        refine List.pairwise_cons.mpr ⟨fun other member => ?_, ih others⟩
        rcases mem_insertSorted.mp member with rfl | member
        · omega
        · exact least other member

namespace FontUse

theorem mem_offeredWeights {font : FontUse} {weight : Int} :
    weight ∈ font.offeredWeights ↔ weight ∈ standardWeights ∨ weight ∈ font.weights := by
  rw [offeredWeights]
  generalize standardWeights = offered
  induction font.weights generalizing offered with
  | nil => simp
  | cons first rest ih =>
    rw [List.foldl_cons, ih, mem_insertSorted, List.mem_cons]
    tauto

theorem pairwise_offeredWeights (font : FontUse) : font.offeredWeights.Pairwise (· < ·) := by
  have standard : standardWeights.Pairwise (· < ·) := by decide
  rw [offeredWeights]
  generalize standardWeights = offered at standard
  induction font.weights generalizing offered with
  | nil => exact standard
  | cons first rest ih => exact ih _ (pairwise_insertSorted standard)

/-! ### One use -/

@[simp]
theorem family_extend (font : FontUse) (weight : Option Int) (style : Option String) :
    (font.extend weight style).family = font.family := rfl

theorem mem_weights_extend {font : FontUse} {weight other : Int} {style : Option String} :
    other ∈ (font.extend (some weight) style).weights ↔
      other ∈ font.weights ∨ weight ≠ 0 ∧ other = weight := by
  rw [extend.eq_def]
  dsimp only
  split
  next zero => simp [zero]
  next differs =>
    rw [mem_insertSorted]
    tauto

theorem mem_styles_extend {font : FontUse} {weight : Option Int} {style other : String} :
    other ∈ (font.extend weight (some style)).styles ↔
      other ∈ font.styles ∨ style ≠ "" ∧ other = style := by
  rw [extend.eq_def]
  dsimp only
  split
  next known =>
    rw [Bool.or_eq_true, String.isEmpty_iff, List.contains_iff_mem] at known
    constructor
    · exact .inl
    · rintro (member | ⟨given, rfl⟩)
      · exact member
      · exact known.resolve_left given
  next new =>
    rw [Bool.or_eq_true, String.isEmpty_iff, not_or] at new
    simp [new.1]

theorem pairwise_extend {font : FontUse} (ordered : font.weights.Pairwise (· < ·)) (weight : Int)
    (style : Option String) : (font.extend (some weight) style).weights.Pairwise (· < ·) := by
  rw [extend.eq_def]
  dsimp only
  split
  · exact ordered
  · exact pairwise_insertSorted ordered

end FontUse

/-! ### All uses -/

/-- A family with a weight and a style that a text asks for. -/
structure FontDemand where
  family : String
  weight : Int
  style : String

/-- What a segment asks for: the weight of its style where it has none of its own. -/
def TextSegment.demand? (segment : TextSegment α) : Option FontDemand :=
  segment.fontName.bind fun name =>
    if name.family.isEmpty then none
    else
      let inferred := inferWeight (some name.style)
      let weight :=
        match segment.fontWeight with
        | some weight => if weight = 0 then inferred else weight
        | none => inferred
      some ⟨name.family, weight, name.style⟩

def FontDemand.addTo (fonts : List FontUse) (demand : FontDemand) : List FontUse :=
  addFont demand.family (some demand.weight) (some demand.style) fonts

theorem addSegmentFont_eq (fonts : List FontUse) (segment : TextSegment α) :
    addSegmentFont fonts segment =
      match segment.demand? with
      | some demand => demand.addTo fonts
      | none => fonts := by
  rw [addSegmentFont, TextSegment.demand?]
  cases segment.fontName with
  | none => rfl
  | some name =>
    dsimp only [Option.bind_some]
    split <;> rfl

theorem foldl_addSegmentFont (segments : List (TextSegment α)) (fonts : List FontUse) :
    segments.foldl addSegmentFont fonts =
      (segments.filterMap TextSegment.demand?).foldl FontDemand.addTo fonts := by
  induction segments generalizing fonts with
  | nil => rfl
  | cons segment rest ih =>
    rw [List.foldl_cons, ih, addSegmentFont_eq, List.filterMap_cons]
    cases segment.demand? <;> rfl

theorem map_family_addFont (family : String) (weight : Option Int) (style : Option String)
    (fonts : List FontUse) :
    (addFont family weight style fonts).map FontUse.family =
      addNew (fonts.map FontUse.family) family := by
  induction fonts with
  | nil => rfl
  | cons font rest ih =>
    rw [addFont]
    split
    next same => simp [addNew, same]
    next differs =>
      have other : ¬ family = font.family := fun same => differs same.symm
      rw [List.map_cons, ih, addNew, addNew]
      split <;> simp_all

/-- A use of a family leaves the other fonts as they are and extends that of the family, which is
new where there is none. -/
theorem addFont_cases {family : String} {weight : Option Int} {style : Option String}
    {fonts : List FontUse} (distinct : (fonts.map FontUse.family).Nodup) {font : FontUse}
    (member : font ∈ addFont family weight style fonts) :
    font ∈ fonts ∧ font.family ≠ family ∨
      ∃ before : FontUse, before.family = family ∧ font = before.extend weight style ∧
        (before ∈ fonts ∨ before = ⟨family, [], []⟩ ∧ family ∉ fonts.map FontUse.family) := by
  induction fonts with
  | nil =>
    obtain rfl := List.mem_singleton.mp member
    exact .inr ⟨_, rfl, rfl, .inr ⟨rfl, by simp⟩⟩
  | cons first rest ih =>
    obtain ⟨new, distinct⟩ := List.nodup_cons.mp distinct
    rw [addFont] at member
    split at member
    next same =>
      rcases List.mem_cons.mp member with rfl | member
      · exact .inr ⟨first, same, rfl, .inl (.head _)⟩
      · refine .inl ⟨.tail _ member, fun known => new ?_⟩
        rw [same, ← known]
        exact List.mem_map_of_mem member
    next differs =>
      rcases List.mem_cons.mp member with rfl | member
      · exact .inl ⟨.head _, differs⟩
      · rcases ih distinct member with ⟨here, other⟩ | ⟨before, named, extended, origin⟩
        · exact .inl ⟨.tail _ here, other⟩
        · refine .inr ⟨before, named, extended, origin.imp (.tail _) ?_⟩
          rintro ⟨fresh, absent⟩
          refine ⟨fresh, ?_⟩
          rw [List.map_cons, List.mem_cons, not_or]
          exact ⟨fun same => differs same.symm, absent⟩

/-- The fonts are the families that are asked for, each with the weights and the styles that it is
asked for and no other. -/
structure Serves (demands : List FontDemand) (fonts : List FontUse) : Prop where
  families : FirstSeen (fonts.map FontUse.family) (demands.map FontDemand.family)
  weights : ∀ font ∈ fonts, ∀ weight, weight ∈ font.weights ↔
    weight ≠ 0 ∧ ∃ demand ∈ demands, demand.family = font.family ∧ demand.weight = weight
  styles : ∀ font ∈ fonts, ∀ style, style ∈ font.styles ↔
    style ≠ "" ∧ ∃ demand ∈ demands, demand.family = font.family ∧ demand.style = style
  ordered : ∀ font ∈ fonts, font.weights.Pairwise (· < ·)

/-- Before a demand is added, the font that it extends serves the demands for its family. -/
private theorem Serves.before {demands : List FontDemand} {fonts : List FontUse}
    (serves : Serves demands fonts) {before : FontUse} {family : String}
    (named : before.family = family)
    (origin : before ∈ fonts ∨
      before = ⟨family, [], []⟩ ∧ family ∉ fonts.map FontUse.family) :
    (∀ weight, weight ∈ before.weights ↔
      weight ≠ 0 ∧ ∃ demand ∈ demands, demand.family = family ∧ demand.weight = weight) ∧
    (∀ style, style ∈ before.styles ↔
      style ≠ "" ∧ ∃ demand ∈ demands, demand.family = family ∧ demand.style = style) ∧
    before.weights.Pairwise (· < ·) := by
  rcases origin with member | ⟨rfl, absent⟩
  · rw [← named]
    exact ⟨serves.weights before member, serves.styles before member,
      serves.ordered before member⟩
  · -- Nothing has asked for a family that is not there yet.
    have unasked : ∀ demand ∈ demands, demand.family ≠ family := fun demand member same =>
      absent ((serves.families.listed family).mpr (same ▸ List.mem_map_of_mem member))
    refine ⟨fun weight => ?_, fun style => ?_, .nil⟩
    · simp only [List.not_mem_nil, false_iff]
      rintro ⟨-, demand, member, same, -⟩
      exact unasked demand member same
    · simp only [List.not_mem_nil, false_iff]
      rintro ⟨-, demand, member, same, -⟩
      exact unasked demand member same

theorem Serves.snoc {demands : List FontDemand} {fonts : List FontUse}
    (serves : Serves demands fonts) (demand : FontDemand) :
    Serves (demands ++ [demand]) (demand.addTo fonts) := by
  have cases {font : FontUse} (member : font ∈ demand.addTo fonts) :=
    addFont_cases serves.families.once member
  -- Another font is not asked for by the new demand, and that of the family has what it had before.
  refine ⟨?_, fun font member weight => ?_, fun font member style => ?_, fun font member => ?_⟩
  · rw [FontDemand.addTo, map_family_addFont, List.map_append]
    exact serves.families.snoc demand.family
  · rcases cases member with ⟨here, other⟩ | ⟨before, named, rfl, origin⟩
    · rw [serves.weights font here]
      simp [other.symm]
    · rw [FontUse.mem_weights_extend, (serves.before named origin).1]
      simp only [FontUse.family_extend, named, List.mem_append, List.mem_singleton]
      grind
  · rcases cases member with ⟨here, other⟩ | ⟨before, named, rfl, origin⟩
    · rw [serves.styles font here]
      simp [other.symm]
    · rw [FontUse.mem_styles_extend, (serves.before named origin).2.1]
      simp only [FontUse.family_extend, named, List.mem_append, List.mem_singleton]
      grind
  · rcases cases member with ⟨here, -⟩ | ⟨before, named, rfl, origin⟩
    · exact serves.ordered font here
    · exact FontUse.pairwise_extend (serves.before named origin).2.2 _ _

theorem serves_foldl (demands : List FontDemand) :
    Serves demands (demands.foldl FontDemand.addTo []) := by
  induction demands using List.reverseRecOn with
  | nil => exact ⟨firstSeen_foldl [], by simp, by simp, by simp⟩
  | append_singleton demands demand ih =>
    rw [List.foldl_append]
    exact ih.snoc demand

theorem forestSegments_eq (nodes : List (Node α)) :
    forestSegments nodes = (Node.preorders nodes).flatMap fun node => segmentsOf node.props :=
  collected_eq treeSegments.eq_1 forestSegments.eq_1 forestSegments.eq_2 nodes

/-- What the texts of a composition ask for, in document order. -/
def fontDemands (composition : Composition α) : List FontDemand :=
  ((Node.preorders composition.children).flatMap fun node => segmentsOf node.props).filterMap
    TextSegment.demand?

theorem serves_fontsOf (composition : Composition α) :
    Serves (fontDemands composition) (fontsOf composition) := by
  rw [fontsOf, foldl_addSegmentFont, forestSegments_eq]
  exact serves_foldl _

/-! ### Segments -/

section Segments

variable [Scalar α]

theorem inferWeight_ne_zero (style : Option String) : inferWeight style ≠ 0 := by
  have words : ∀ entry ∈ weightWords, entry.1 ≠ 0 := by decide
  unfold inferWeight
  dsimp only
  split
  next entry found => exact words entry (List.mem_of_find?_eq_some found)
  · decide

private theorem get?_fontDeclarations {segment : TextSegment α} {name : FontName}
    (named : segment.fontName = some name) :
    (ofList (fontDeclarations segment)).get? "font-weight" =
        some (toString (segmentWeight segment)) ∧
      ((ofList (fontDeclarations segment)).get? "font-style" = some "italic" →
        isItalic name.style = true) := by
  unfold fontDeclarations
  rw [named]
  dsimp only
  cases segment.fontSize <;> cases italic : isItalic name.style <;>
    rw [get?_ofList (by simp [Css.names]), get?_ofList (by simp [Css.names])] <;>
    simp [List.lookup_cons]

/-- A segment with a font declares its weight, and that it is italic where its style says so. -/
theorem font_of_segmentCss {segment : TextSegment α} {name : FontName} {css : Css.Declarations}
    (named : segment.fontName = some name) (styled : segmentCss segment = .ok css) :
    css.get? "font-weight" = some (toString (segmentWeight segment)) ∧
      (css.get? "font-style" = some "italic" → isItalic name.style = true) := by
  obtain ⟨color, -, styled⟩ := Except.bind_eq_ok_iff.mp styled
  cases styled
  have table (property : String) (table : List (String × String)) (word : Option String) :
      ∀ declaration ∈ lookupDeclaration property table word, declaration.1 = property := by
    unfold lookupDeclaration
    split <;> simp
  -- What follows the font is about the letters, the lines and the colour.
  let rest := spacingDeclarations segment.letterSpacing ++
    (lineHeightDeclarations segment.lineHeight ++ ([("color", color)] ++
      (lookupDeclaration "text-decoration" decorations segment.textDecoration ++
        lookupDeclaration "text-transform" caseTransforms segment.textCase)))
  have names : ∀ declaration ∈ rest, declaration.1 ∈
      ["letter-spacing", "line-height", "color", "text-decoration", "text-transform"] := by
    simp only [rest, List.forall_mem_append]
    refine ⟨?_, ?_, by simp, fun declaration member => ?_, fun declaration member => ?_⟩
    · unfold spacingDeclarations
      split
      · simp
      · split
        split <;> simp
    · unfold lineHeightDeclarations
      split
      · simp
      · split <;> simp
      · simp
    · simp [table _ _ _ declaration member]
    · simp [table _ _ _ declaration member]
  have kept {property : String} (foreign : property ∉
      ["letter-spacing", "line-height", "color", "text-decoration", "text-transform"]) :
      (ofList (fontDeclarations segment ++ rest)).get? property =
        (ofList (fontDeclarations segment)).get? property := by
    rw [ofList, setAll, List.foldl_append]
    refine get?_setAll_of_notMem fun member => foreign ?_
    obtain ⟨declaration, here, rfl⟩ := List.mem_map.mp member
    exact names declaration here
  simp only [List.append_assoc]
  change (ofList (fontDeclarations segment ++ rest)).get? "font-weight" = _ ∧
    ((ofList (fontDeclarations segment ++ rest)).get? "font-style" = _ → _)
  rw [kept (by decide), kept (by decide)]
  exact get?_fontDeclarations named

omit [Scalar α] in
private theorem demand?_of_named {segment : TextSegment α} {name : FontName}
    (named : segment.fontName = some name) (family : name.family ≠ "")
    (weighted : segment.fontWeight ≠ some 0) :
    segment.demand? = some ⟨name.family, segmentWeight segment, name.style⟩ ∧
      segmentWeight segment ≠ 0 := by
  have given : name.family.isEmpty = false := by simpa using family
  rw [TextSegment.demand?, segmentWeight, named, Option.bind_some, given]
  cases own : segment.fontWeight with
  | none => exact ⟨rfl, inferWeight_ne_zero _⟩
  | some weight =>
    have differs : weight ≠ 0 := fun zero => weighted (own.trans (congrArg some zero))
    exact ⟨by simp [differs], differs⟩

/-- The font is the only one of its family. It has the weight that is declared, and an italic style
where that is declared. -/
structure SetIn (fonts : List FontUse) (name : FontName) (css : Css.Declarations)
    (font : FontUse) : Prop where
  listed : font ∈ fonts
  family : font.family = name.family
  only : ∀ other ∈ fonts, other.family = name.family → other = font
  weight : ∃ weight ∈ font.weights, css.get? "font-weight" = some (toString weight)
  italic : css.get? "font-style" = some "italic" → font.hasItalic = true

/-- A segment is set in the font that serves what it asks for. -/
theorem Serves.exists_setIn {demands : List FontDemand} {fonts : List FontUse}
    (serves : Serves demands fonts) {segment : TextSegment α} {name : FontName}
    {css : Css.Declarations} (asked : ∀ demand ∈ segment.demand?, demand ∈ demands)
    (named : segment.fontName = some name) (family : name.family ≠ "")
    (weighted : segment.fontWeight ≠ some 0) (styled : segmentCss segment = .ok css) :
    ∃ font, SetIn fonts name css font := by
  obtain ⟨demanded, heavy⟩ := demand?_of_named named family weighted
  have member := asked _ demanded
  obtain ⟨font, listed, same⟩ := List.mem_map.mp
    ((serves.families.listed name.family).mpr (List.mem_map_of_mem member))
  obtain ⟨weight, italic⟩ := font_of_segmentCss named styled
  refine ⟨font, listed, same, fun other here twin => ?_, ⟨segmentWeight segment, ?_, weight⟩, ?_⟩
  · exact List.inj_on_of_nodup_map serves.families.once here listed (twin.trans same.symm)
  · exact (serves.weights font listed _).mpr ⟨heavy, _, member, same.symm, rfl⟩
  · intro declared
    have leaning := italic declared
    have styled : name.style ≠ "" := by
      rintro upright
      rw [upright] at leaning
      revert leaning
      decide
    exact List.any_eq_true.mpr ⟨name.style,
      (serves.styles font listed _).mpr ⟨styled, _, member, same.symm, rfl⟩, leaning⟩

end Segments

/-! ### Addresses -/

/-- What a font service is asked for one family. -/
structure FamilySpec where
  name : String
  italic : Bool
  weights : List Int

/-- The weights follow the names of the axes, in pairs of the upright and the italic style where
there is an axis for it. -/
def FamilySpec.text (spec : FamilySpec) : String :=
  if spec.italic then
    let values := String.intercalate ";"
      (spec.weights.flatMap fun weight => [s!"0,{weight}", s!"1,{weight}"])
    s!"family={spec.name}:ital,wght@{values}"
  else
    let values := String.intercalate ";" (spec.weights.map toString)
    s!"family={spec.name}:wght@{values}"

/-- The address that asks for all families in one request. -/
def serviceUrl (specs : List FamilySpec) : String :=
  let requests := String.intercalate "&" (specs.map FamilySpec.text)
  s!"https://fonts.googleapis.com/css2?{requests}&display=swap"

/-- The spec asks for the font: for all its weights, each once and in order, and for italics where
the font has an italic style. -/
structure AsksFor (font : FontUse) (spec : FamilySpec) : Prop where
  name : spec.name = "+".intercalate ((Text.words font.family.toList).map String.ofList)
  italic : spec.italic = font.hasItalic
  weights : font.weights ⊆ spec.weights
  ordered : spec.weights.Pairwise (· < ·)

/-- What the service is asked for a font. -/
private def FontUse.spec (font : FontUse) : FamilySpec where
  name := "+".intercalate ((Text.words font.family.toList).map String.ofList)
  italic := font.hasItalic
  weights := font.offeredWeights

private theorem request_eq (font : FontUse) : font.request = font.spec.text := rfl

/-- The address has a spec for each font, in the same order; without fonts there is none. -/
theorem fontServiceUrl_eq (fonts : List FontUse) : ∃ specs, List.Forall₂ AsksFor fonts specs ∧
    fontServiceUrl fonts = if fonts.isEmpty then none else some (serviceUrl specs) := by
  refine ⟨fonts.map FontUse.spec, ?_, ?_⟩
  · rw [List.forall₂_map_right_iff, List.forall₂_same]
    exact fun font _ => ⟨rfl, rfl, fun weight used => FontUse.mem_offeredWeights.mpr (.inr used),
      font.pairwise_offeredWeights⟩
  · have texts : (fonts.map FontUse.spec).map FamilySpec.text = fonts.map FontUse.request := by
      rw [List.map_map]
      exact List.map_congr_left fun font _ => (request_eq font).symm
    unfold fontServiceUrl serviceUrl
    dsimp only
    rw [texts]

end Artboard
