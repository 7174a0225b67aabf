import Artboard.Proofs.Scene.Shadows

/-!
# Patterns of compiled boxes

What a compiled box declares for shared properties is written without a
semicolon, whatever its paints, effects and strokes are. The key of a pattern
therefore stands for one set of declarations.
-/
namespace Artboard

open Css Css.Declarations

/-! ### Texts without a semicolon -/

/-- The text does not end the declaration in which it stands. -/
def Css.Unbroken (text : String) : Prop := ';' ∉ text.toList

namespace Css

@[simp]
theorem unbroken_append {first second : String} :
    Unbroken (first ++ second) ↔ Unbroken first ∧ Unbroken second := by
  simp [Unbroken]

theorem unbroken_intercalate {separator : String} (between : Unbroken separator)
    {texts : List String} (each : ∀ text ∈ texts, Unbroken text) :
    Unbroken (String.intercalate separator texts) := by
  rw [Unbroken, String.toList_intercalate]
  refine intercalate_closed (P := fun chars => ';' ∉ chars) List.not_mem_nil ?_ between
    (List.forall_mem_map.mpr each)
  exact fun one other => by simp [one, other]

theorem IsWord.unbroken {text : String} (word : IsWord text.toList) : Unbroken text :=
  fun member => Bool.false_ne_true (word ';' member)

theorem IsCall.unbroken {text : String} (call : IsCall text.toList) : Unbroken text := by
  obtain ⟨name, arguments, word, -, listed, same⟩ := call
  have apart : isWordChar ';' = false := rfl
  have named : ';' ∉ name := fun member => by simpa [apart] using word ';' member
  have given : ';' ∉ arguments := fun member => by simpa [apart] using listed ';' member
  simp [Unbroken, same, named, given]

variable {α : Type} [Scalar α]

@[simp]
theorem unbroken_px (value : α) : Unbroken (px value) := (isWord_px value).unbroken

theorem unbroken_number (value : α) {places : Nat} (fractional : places ≠ 0) :
    Unbroken (number value places) := (isWord_number value fractional).unbroken

/-- What may become part of a pattern is unbroken. -/
def Declarations.Clear (bag : Declarations) : Prop :=
  ∀ declaration ∈ bag.toList, declaration.1 ∈ Classes.sharedProperties → Unbroken declaration.2

namespace Declarations

variable {bag other : Declarations} {declarations : List Declaration}

theorem Clear.setAll (clear : bag.Clear) (others : ∀ declaration ∈ declarations,
    declaration.1 ∈ Classes.sharedProperties → Unbroken declaration.2) :
    (bag.setAll declarations).Clear := by
  intro declaration member
  exact (mem_of_mem_setAll bag member).elim (clear declaration) (others declaration)

theorem Clear.update (clear : bag.Clear) (others : other.Clear) : (bag.update other).Clear :=
  clear.setAll others

theorem clear_ofList (each : ∀ declaration ∈ declarations,
    declaration.1 ∈ Classes.sharedProperties → Unbroken declaration.2) :
    (ofList declarations).Clear :=
  Clear.setAll (by simp [Clear, empty]) each

theorem Within.clear (within : bag.Within unsharedProperties) : bag.Clear :=
  fun _ member shared => absurd shared (mem_unsharedProperties.mp (within.mem member)).2

theorem clear_empty : empty.Clear := within_empty.clear

/-- The declarations of a pattern can be told apart in its key. -/
theorem Clear.separable (clear : bag.Clear) :
    ∀ declaration ∈ (Classes.pattern bag).toList, Separable declaration := by
  have named : ∀ name ∈ Classes.sharedProperties, ':' ∉ name.toList ∧ ';' ∉ name.toList := by
    decide +kernel
  intro declaration member
  obtain ⟨inside, shared⟩ := List.mem_filter.mp member
  have shared : declaration.1 ∈ Classes.sharedProperties := by simpa using shared
  obtain ⟨colon, semicolon⟩ := named _ shared
  refine ⟨fun c member => ⟨?_, ?_⟩, clear declaration inside shared⟩ <;> rintro rfl
  · exact colon member
  · exact semicolon member

end Declarations

end Css

variable {α : Type} [Scalar α]

/-! ### Paints -/

private theorem unbroken_signed (value : Exact) (places : Nat) :
    Unbroken (Fixed.signed value places) := by
  have apart : Char.isDigit ';' = false := rfl
  have counted (count : Nat) : ';' ∉ Nat.toDigits 10 count := fun member => by
    have digit := Nat.isDigit_of_mem_toDigits (by decide) (by decide) member
    exact Bool.false_ne_true (apart.symm.trans digit)
  have padded (width count : Nat) : ';' ∉ Fixed.padded width count := fun member =>
    Bool.false_ne_true (apart.symm.trans (Fixed.isDigit_of_mem_padded member))
  have digits (units : Nat) : ';' ∉ Fixed.digits units places := by
    rw [Fixed.digits]
    split <;> simp [counted, padded]
  cases value with
  | undefined => simp [Fixed.signed, Unbroken]
  | infinite negative => cases negative <;> simp [Fixed.signed, Unbroken]
  | finite value =>
    rw [Fixed.signed]
    split <;> simp [Unbroken, digits]

private theorem unbroken_stopCss {opacity : α} {stop : GradientStop α} {text : String}
    (written : Paint.stopCss opacity stop = .ok text) : Unbroken text := by
  obtain ⟨color, colored, rfl⟩ := Paint.stopCss_cases written
  have color := (Paint.isCall_colorCss colored).unbroken
  have blank : Unbroken " " ∧ Unbroken "%" := by simp [Unbroken]
  simp [color, blank, unbroken_signed]

private theorem unbroken_opening {gradient : Gradient α} {width height : α} {text : String}
    (opening : Paint.GradientOpening gradient width height text) : Unbroken text := by
  cases opening with
  | @linear angle =>
    have words : Unbroken "linear-gradient(" ∧ Unbroken "deg, " := by simp [Unbroken]
    simpa [words, toString] using (isWord_int angle).unbroken
  | radial => simp [Unbroken]
  | angular => simp [Unbroken]
  | diamond => simp [Unbroken]

private theorem unbroken_gradientCss {gradient : Gradient α} {opacity width height : α}
    {text : String} (written : Paint.gradientCss gradient opacity width height = .ok (some text)) :
    Unbroken text := by
  cases Paint.gradientCss_cases written with
  | @several _ stops _ opening visited =>
    have stops : Unbroken (String.intercalate ", " stops) := by
      refine unbroken_intercalate (by simp [Unbroken]) fun stop member => ?_
      obtain ⟨_, -, written⟩ := exists_of_mem_right visited member
      exact unbroken_stopCss written
    rw [unbroken_append, unbroken_append]
    exact ⟨⟨unbroken_opening opening, stops⟩, by simp [Unbroken]⟩

/-- A layer without an image is written without a semicolon. -/
private theorem unbroken_layer {template : String} {width height : α} {paint : Artboard.Paint α}
    {layer : Paint.Layer} (painted : Paint.LayerOf template width height paint layer) :
    layer.kind = .image ∨ ∀ declaration ∈ Paint.singleLayer layer, Unbroken declaration.2 := by
  cases painted with
  | image => exact .inl rfl
  | gradient _ written =>
    exact .inr (by simpa [Paint.singleLayer] using unbroken_gradientCss written)
  | solid _ colored =>
    exact .inr (by simpa [Paint.singleLayer] using (Paint.isCall_colorCss colored).unbroken)

private theorem clear_boxBackground {template : String} {node : NodeProps α} {kind : NodeKind}
    {background : Css.Declarations} (painted : boxBackground template node kind = .ok background) :
    background.Clear := by
  cases boxBackground_cases painted with
  | blank => exact clear_empty
  | @single layer drawn =>
    obtain ⟨paint, -, -, painted⟩ := Paint.exists_layerOf_of_layers drawn layer (.head _)
    refine clear_ofList fun declaration here shared => ?_
    rcases unbroken_layer painted with image | unbroken
    · -- The layer of an image is spelled out in properties that are not shared.
      simp only [Paint.singleLayer, image, List.mem_cons, List.not_mem_nil, or_false] at here
      rcases here with rfl | rfl | rfl | rfl <;> simp [Classes.sharedProperties] at shared
    · exact unbroken declaration here
  | several =>
    refine clear_ofList fun declaration here shared => ?_
    simp only [Paint.severalLayers, List.mem_append, List.mem_cons, List.not_mem_nil,
      or_false] at here
    rcases here with (rfl | rfl | rfl | rfl) | blend
    · simp [Classes.sharedProperties] at shared
    · simp [Classes.sharedProperties] at shared
    · simp [Classes.sharedProperties] at shared
    · simp [Classes.sharedProperties] at shared
    · split at blend <;> simp at blend
      simp [blend, Classes.sharedProperties] at shared

/-! ### Effects and strokes -/

/-- Every token is unbroken. -/
def EffectTokens.Clear (tokens : EffectTokens) : Prop :=
  ∀ token ∈ tokens.boxShadows ++ tokens.textShadows ++ tokens.filters ++ tokens.backdropFilters,
    Unbroken token

namespace EffectTokens

theorem clear_css {tokens : EffectTokens} (clear : tokens.Clear) : tokens.css.Clear := by
  have listed {name separator : String} {values : List String} (between : Unbroken separator)
      (each : ∀ token ∈ values, Unbroken token) :
      ∀ declaration ∈ listDeclaration name separator values, Unbroken declaration.2 := by
    rw [listDeclaration]
    split
    · simp
    · simpa using unbroken_intercalate between each
  have marks : Unbroken "," ∧ Unbroken " " := by simp [Unbroken]
  simp only [Clear, List.forall_mem_append] at clear
  obtain ⟨⟨⟨boxes, texts⟩, filters⟩, backdrops⟩ := clear
  refine clear_ofList fun declaration member _ => ?_
  simp only [List.mem_append] at member
  rcases member with (((box | text) | filter) | backdrop) | backdrop
  · exact listed marks.1 boxes declaration box
  · exact listed marks.1 texts declaration text
  · exact listed marks.2 filters declaration filter
  · exact listed marks.2 backdrops declaration backdrop
  · exact listed marks.2 backdrops declaration backdrop

private theorem unbroken_tokens {shadow : Shadow α} (color : Unbroken shadow.color) :
    Unbroken shadow.boxToken ∧ Unbroken shadow.textToken ∧ Unbroken shadow.dropToken := by
  have words : Unbroken "" ∧ Unbroken " " ∧ Unbroken "inset " ∧ Unbroken ")" ∧
      Unbroken "drop-shadow(" := by simp [Unbroken]
  refine ⟨?_, ?_, ?_⟩
  · cases inner : shadow.inner <;> simp [Shadow.boxToken, inner, words, color, toString]
  · simp [Shadow.textToken, words, color, toString]
  · change Unbroken ("drop-shadow(" ++ px shadow.x ++ " " ++ px shadow.y ++ " " ++
      px shadow.blur ++ " " ++ shadow.color ++ ")")
    simp [words, color]

private theorem clear_boxTokens (node : NodeProps α) (kind : NodeKind) (paints : Bool)
    {effects : EffectSet α} {strokeShadows : List String} {inherited : List (Shadow α)}
    (own : ∀ shadow ∈ effects.shadows, Unbroken shadow.color)
    (strokes : ∀ token ∈ strokeShadows, Unbroken token)
    (handed : ∀ shadow ∈ inherited, Unbroken shadow.color) :
    (boxTokens node kind paints effects strokeShadows inherited).Clear :=
  all_boxTokens node kind paints (fun shadow member => unbroken_tokens (own shadow member))
    (fun shadow member => unbroken_tokens (handed shadow member)) strokes
    fun _ _ member => (isCall_blurToken member).unbroken

end EffectTokens

private theorem clear_strokeCss {node : NodeProps α} {shadows : List (Shadow α)}
    {stroke : StrokeCss} (drawn : StrokeCss.ofNode node shadows = .ok stroke) :
    stroke.css.Clear := by
  rcases StrokeCss.ofNode_cases drawn with ⟨-, rfl⟩ | ⟨spec, found, drawn⟩
  · exact clear_empty
  cases drawn with
  | weightless => exact clear_empty
  | hidden => exact clear_empty
  | vector => exact clear_empty
  | glyphs _ _ solid =>
    rw [StrokeSpec.textStroke, solid]
    refine clear_ofList ?_
    split <;> simp [Classes.sharedProperties]
  | box _ _ _ boxed =>
    cases boxed with
    | ring => exact clear_empty
    | dashes => exact clear_empty
    | border => exact clear_empty
    | native solid =>
      have color := (isCall_solid found solid).unbroken
      have words : Unbroken "" ∧ Unbroken " solid " := by simp [Unbroken]
      rw [StrokeSpec.nativeStroke]
      cases spec.align with
      | inside => exact clear_empty
      | center => exact clear_ofList (by simp [words, color, toString])
      | outside => exact clear_ofList (by simp [Classes.sharedProperties])

private theorem clear_radiusCss (radii : Option (Radii α)) : (Paint.radiusCss radii).Clear := by
  have declared := Paint.radiusOf_radiusCss radii
  generalize Paint.radiusCss radii = radius at declared
  cases declared with
  | square => exact clear_empty
  | uniform => exact clear_ofList (by simp)
  | each =>
    refine clear_ofList (List.forall_mem_singleton.mpr fun _ => ?_)
    refine unbroken_intercalate (by simp [Unbroken]) ?_
    simp

/-! ### Boxes -/

private theorem clear_ofParts {node : NodeProps α} {kind : NodeKind}
    {background : Css.Declarations} {tokens : EffectTokens} {stroke : StrokeCss}
    (behind : background.Clear) (effects : tokens.Clear) (drawn : stroke.css.Clear) :
    (BoxStyle.ofParts node kind background tokens stroke).css.Clear := by
  have rounded : (radiusDeclarations kind node).Clear := by
    rw [radiusDeclarations]
    split
    · exact clear_ofList (by simp [Unbroken])
    · exact clear_radiusCss _
  have faded : ∀ declaration ∈ opacityDeclarations node.style.opacity,
      declaration.1 ∈ Classes.sharedProperties → Unbroken declaration.2 := by
    rw [opacityDeclarations]
    split
    · simp
    · simpa using fun _ => unbroken_number node.style.opacity (show 3 ≠ 0 by decide)
  obtain ⟨text, within, -, same⟩ := BoxStyle.ofParts_css node kind background tokens stroke
  rw [same]
  refine Clear.update (Clear.setAll (Clear.setAll (Clear.update (Clear.update
    (behind.update (EffectTokens.clear_css effects)) drawn) rounded) faded) ?_)
    within.ofTextBox.ofUnstacked.clear
  intro declaration member shared
  have unshared := (mem_unstackedProperties.mp (blend_unstacked _ declaration member)).1
  exact absurd shared (mem_unsharedProperties.mp unshared).2

private theorem clear_style {template : String} {node : NodeProps α} {kind : NodeKind}
    {isHolder : Bool} {inherited : List (Shadow α)} {style : BoxStyle}
    (colored : ∀ shadow ∈ inherited, IsCall shadow.color.toList)
    (styled : BoxStyle.ofNode template node kind isHolder inherited = .ok style) :
    style.css.Clear := by
  obtain ⟨background, declared, stroke, painted, known, drawn, rfl⟩ := BoxStyle.ofNode_cases styled
  obtain ⟨own, visible, rfl⟩ := Style.effectSet_eq_ok_iff.mp known
  refine clear_ofParts (clear_boxBackground painted)
    (EffectTokens.clear_boxTokens node kind _ ?_ ?_ fun shadow member =>
      (colored shadow member).unbroken) (clear_strokeCss drawn)
  · intro shadow member
    split at member
    · exact (Style.isCall_visibleShadows visible shadow member).unbroken
    · simp [EffectSet.withoutShadows] at member
  · intro token member
    rcases boxShadows_cases drawn with none | ⟨stroke, one, width, color, call, rfl⟩
    · simp [none] at member
    · have words : Unbroken "" ∧ Unbroken " " ∧ Unbroken "inset 0 0 0 " := by simp [Unbroken]
      rw [one, List.mem_singleton] at member
      simp [member, words, call.unbroken, toString]

private theorem clear_maskBoxCss {template : String} {mask : NodeProps α}
    {itemCss css : Css.Declarations} (styled : maskBoxCss template mask itemCss = .ok css)
    (item : itemCss.Clear) : css.Clear := by
  obtain ⟨image, painted, styled⟩ := Except.bind_eq_ok_iff.mp styled
  cases styled
  have set {bag : Css.Declarations} {name value : String} (clear : bag.Clear)
      (unbroken : Unbroken value) : (bag.set name value).Clear :=
    show (bag.setAll [(name, value)]).Clear from clear.setAll (by simp [unbroken])
  refine Clear.update (Clear.update (set ?_ (by simp [Unbroken]))
    (within_maskCss painted).ofUnstacked.clear) item
  split
  · exact set (clear_radiusCss _) (by simp [Unbroken])
  · exact clear_radiusCss _

/-- What a compiled box declares for shared properties is unbroken. -/
theorem clear_of_compiledAs {template : String} {root : Affine α} {entry : Entry α}
    {box : SceneBox α} (lawful : entry.Lawful) (compiled : CompiledAs template root entry box) :
    box.declarations.Clear := by
  cases compiled with
  | node alone placed returned =>
    obtain ⟨-, _, _, _, -, styled, -, rfl⟩ := compileBox_cases returned
    exact placed.itemCss.within.clear.update (clear_style (placed.isCall_inherited lawful) styled)
  | group grouped placed inverted known styled =>
    exact clear_maskBoxCss styled placed.itemCss.within.clear

/-- The boxes of a compiled scene with one key have the same pattern in some order. -/
theorem perm_pattern_of_stableKey_eq {template : String} {provider : FontProvider}
    {composition : Composition α} {scene : CompiledScene α}
    (compiled : compileComposition template provider composition = .ok scene)
    {first second : SceneBox α} (one : first ∈ SceneNode.preorders scene.nodes)
    (other : second ∈ SceneNode.preorders scene.nodes)
    (same : (Classes.pattern first.declarations).stableKey =
      (Classes.pattern second.declarations).stableKey) :
    (Classes.pattern first.declarations).toList.Perm
      (Classes.pattern second.declarations).toList := by
  have clear {box : SceneBox α} (inside : box ∈ SceneNode.preorders scene.nodes) :
      box.declarations.Clear := by
    obtain ⟨entry, member, compiled⟩ :=
      exists_of_mem_right (forall₂_preorders (follows_walk compiled)) inside
    exact clear_of_compiledAs (lawful_walk composition entry member) compiled
  exact perm_of_stableKey_eq (clear one).separable (clear other).separable same

end Artboard
