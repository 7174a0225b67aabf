import Artboard.Classes.Shared
import Artboard.Proofs.Css.Bag
import Artboard.Proofs.Scene.Walk
import Artboard.Proofs.Stroke.Cases

/-!
# Properties that boxes declare

The style of a compiled box declares its look, and never a size or a gap. These
come from its layout alone.
-/
namespace Artboard

variable {α : Type} [Scalar α]

open Css.Declarations

/-- What the declarations of a compiled box may be about. -/
def boxProperties : List String :=
  ["background", "background-image", "background-position", "background-size",
   "background-repeat", "background-blend-mode",
   "box-shadow", "text-shadow", "filter", "backdrop-filter", "-webkit-backdrop-filter",
   "border", "outline", "outline-offset", "-webkit-text-stroke", "paint-order",
   "border-radius", "overflow", "opacity", "mix-blend-mode",
   "white-space", "text-overflow", "text-align", "display", "align-items", "flex-direction",
   "justify-content", "text-indent",
   "-webkit-mask-image", "-webkit-mask-size", "-webkit-mask-position", "-webkit-mask-repeat",
   "mask-image", "mask-size", "mask-position", "mask-repeat", "mask-mode",
   "margin-top", "margin-left", "z-index"]

/-- What the effects of a box declare. -/
def effectProperties : List String :=
  ["box-shadow", "text-shadow", "filter", "backdrop-filter", "-webkit-backdrop-filter"]

/-- What the rest of its style declares. -/
def plainProperties : List String :=
  boxProperties.filter fun name => !effectProperties.contains name

theorem mem_plainProperties {name : String} :
    name ∈ plainProperties ↔ name ∈ boxProperties ∧ name ∉ effectProperties := by
  simp [plainProperties]

/-- What a box declares as an item of its container. -/
def stackProperties : List String := ["margin-top", "margin-left", "z-index"]

/-- What of the plain properties is left neither to the item nor to the box of a text, which alone
says how a box is displayed. -/
def paintProperties : List String :=
  plainProperties.filter fun name => name != "display" && !stackProperties.contains name

theorem mem_paintProperties {name : String} :
    name ∈ paintProperties ↔ (name ∈ boxProperties ∧ name ∉ effectProperties) ∧
      name ≠ "display" ∧ name ∉ ["margin-top", "margin-left", "z-index"] := by
  simp [paintProperties, mem_plainProperties, stackProperties]

/-- What of the plain properties is never part of a pattern. -/
def unsharedProperties : List String :=
  plainProperties.filter fun name => !Classes.sharedProperties.contains name

theorem mem_unsharedProperties {name : String} :
    name ∈ unsharedProperties ↔ name ∈ plainProperties ∧ name ∉ Classes.sharedProperties := by
  simp [unsharedProperties]

/-- What of the unshared properties is not left to the item. -/
def unstackedProperties : List String :=
  unsharedProperties.filter fun name => !stackProperties.contains name

theorem mem_unstackedProperties {name : String} :
    name ∈ unstackedProperties ↔ name ∈ unsharedProperties ∧ name ∉ stackProperties := by
  simp [unstackedProperties]

/-- What a style declares. -/
def styleProperties : List String :=
  boxProperties.filter fun name => !stackProperties.contains name

theorem mem_styleProperties {name : String} :
    name ∈ styleProperties ↔ name ∈ boxProperties ∧ name ∉ stackProperties := by
  simp [styleProperties]

/-- What the layers of a background declare. -/
def backgroundProperties : List String :=
  ["background", "background-image", "background-position", "background-size",
   "background-repeat", "background-blend-mode"]

/-- What the stroke of a box itself declares. -/
def strokeProperties : List String :=
  ["border", "outline", "outline-offset", "-webkit-text-stroke", "paint-order"]

/-- What strokes and corners declare. -/
def edgeProperties : List String :=
  ["border", "outline", "outline-offset", "-webkit-text-stroke", "paint-order", "border-radius",
   "overflow"]

/-- What the box of a text declares. -/
def textBoxProperties : List String :=
  ["white-space", "overflow", "text-overflow", "text-align", "display", "align-items",
   "flex-direction", "justify-content", "text-indent"]

/-- What is made of layers: backgrounds and masks. -/
def layerProperties : List String :=
  ["background", "background-image", "-webkit-mask-image", "mask-image"]

theorem Css.Declarations.Within.ofEdge {bag : Css.Declarations}
    (within : bag.Within edgeProperties) : bag.Within paintProperties :=
  within.mono (by decide +kernel)

theorem Css.Declarations.Within.ofTextBox {bag : Css.Declarations}
    (within : bag.Within textBoxProperties) : bag.Within unstackedProperties :=
  within.mono (by decide +kernel)

theorem Css.Declarations.Within.ofUnstacked {bag : Css.Declarations}
    (within : bag.Within unstackedProperties) : bag.Within unsharedProperties :=
  within.mono fun _ member => (mem_unstackedProperties.mp member).1

theorem Css.Declarations.Within.ofUnshared {bag : Css.Declarations}
    (within : bag.Within unsharedProperties) : bag.Within plainProperties :=
  within.mono fun _ member => (mem_unsharedProperties.mp member).1

theorem Css.Declarations.Within.ofPaint {bag : Css.Declarations}
    (within : bag.Within paintProperties) : bag.Within plainProperties :=
  within.mono fun _ member => mem_plainProperties.mpr (mem_paintProperties.mp member).1

theorem Css.Declarations.Within.ofPlain {bag : Css.Declarations}
    (within : bag.Within plainProperties) : bag.Within boxProperties :=
  within.mono fun _ member => (mem_plainProperties.mp member).1

/-! ### Parts of a style -/

theorem within_tokens (tokens : EffectTokens) : tokens.css.Within effectProperties := by
  refine within_ofList fun declaration member => ?_
  simp only [EffectTokens.listDeclaration, List.mem_append] at member
  rcases member with (((member | member) | member) | member) | member <;> split at member <;>
    simp_all [effectProperties]

theorem within_stroke {node : NodeProps α} {shadows : List (Shadow α)} {stroke : StrokeCss}
    (drawn : StrokeCss.ofNode node shadows = .ok stroke) : stroke.css.Within strokeProperties := by
  rcases StrokeCss.ofNode_cases drawn with ⟨-, rfl⟩ | ⟨spec, -, drawn⟩
  · exact within_empty
  cases drawn with
  | weightless => exact within_empty
  | hidden => exact within_empty
  | vector => exact within_empty
  | glyphs _ _ solid =>
    rw [StrokeSpec.textStroke, solid]
    refine within_ofList ?_
    split <;> simp [strokeProperties]
  | box _ _ _ boxed =>
    cases boxed with
    | ring => exact within_empty
    | dashes => exact within_empty
    | border => exact within_empty
    | native =>
      rw [StrokeSpec.nativeStroke]
      cases spec.align
      · exact within_empty
      · exact within_ofList (by simp [strokeProperties])
      · exact within_ofList (by simp [strokeProperties])

theorem within_strokeCss {node : NodeProps α} {shadows : List (Shadow α)} {stroke : StrokeCss}
    (drawn : StrokeCss.ofNode node shadows = .ok stroke) : stroke.css.Within edgeProperties :=
  (within_stroke drawn).mono (by decide)

theorem within_radius (radii : Option (Radii α)) :
    (Paint.radiusCss radii).Within ["border-radius"] := by
  have declared := Paint.radiusOf_radiusCss radii
  generalize Paint.radiusCss radii = radius at declared
  cases declared with
  | square => exact within_empty
  | uniform => exact within_ofList (by simp)
  | each => exact within_ofList (by simp)

theorem within_radiusCss (radii : Option (Radii α)) :
    (Paint.radiusCss radii).Within edgeProperties :=
  (within_radius radii).mono (by decide)

theorem within_textBox (text : TextData α) :
    (Typography.textBox text).css.Within textBoxProperties := by
  unfold Typography.textBox
  dsimp only
  refine within_ofList fun declaration member => ?_
  simp only [List.mem_append] at member
  rcases member with ((member | member) | member) | member
  · rw [Typography.whiteSpace] at member
    split at member
    · simp [textBoxProperties] at member ⊢
      grind
    · split at member <;> simp_all [textBoxProperties]
  · split at member <;> simp_all [textBoxProperties]
  · unfold Typography.verticalDeclarations at member
    split at member
    · simp at member
    · split at member <;> simp [textBoxProperties] at member ⊢ <;> grind
  · split at member <;> simp_all [textBoxProperties]

theorem within_radiusDeclarations (kind : NodeKind) (node : NodeProps α) :
    (radiusDeclarations kind node).Within edgeProperties := by
  rw [radiusDeclarations]
  split
  · exact within_ofList (by simp [edgeProperties])
  · exact within_radiusCss _

/-- The background of a box is blank, or that of its node. -/
theorem boxBackground_cases {template : String} {node : NodeProps α} {kind : NodeKind}
    {background : Css.Declarations} (painted : boxBackground template node kind = .ok background) :
    Paint.BackgroundOf template node background := by
  rw [boxBackground] at painted
  split at painted
  · cases painted
    exact .blank
  · exact Paint.backgroundCss_cases painted

theorem within_background {template : String} {node : NodeProps α} {kind : NodeKind}
    {background : Css.Declarations} (painted : boxBackground template node kind = .ok background) :
    background.Within backgroundProperties := by
  cases boxBackground_cases painted with
  | blank => exact within_empty
  | @single layer _ =>
    refine within_ofList ?_
    rw [Paint.singleLayer]
    cases layer.kind <;> simp [backgroundProperties]
  | several =>
    refine within_ofList ?_
    rw [Paint.severalLayers]
    split <;> simp [backgroundProperties]

theorem within_boxBackground {template : String} {node : NodeProps α} {kind : NodeKind}
    {background : Css.Declarations} (painted : boxBackground template node kind = .ok background) :
    background.Within paintProperties :=
  (within_background painted).mono (by decide +kernel)

/-- A style is made of a background, the effects and a stroke. -/
theorem BoxStyle.ofNode_cases {template : String} {node : NodeProps α} {kind : NodeKind}
    {isHolder : Bool} {inherited : List (Shadow α)} {style : BoxStyle}
    (styled : BoxStyle.ofNode template node kind isHolder inherited = .ok style) :
    ∃ background declared stroke, boxBackground template node kind = .ok background ∧
      node.style.effectSet = .ok declared ∧
      StrokeCss.ofNode node (if paintsInherited kind isHolder then declared
        else declared.withoutShadows).shadows = .ok stroke ∧
      style = ofParts node kind background
        (boxTokens node kind (paintsInherited kind isHolder)
          (if paintsInherited kind isHolder then declared else declared.withoutShadows)
          stroke.boxShadows inherited) stroke := by
  obtain ⟨background, painted, styled⟩ := Except.bind_eq_ok_iff.mp styled
  obtain ⟨declared, known, styled⟩ := Except.bind_eq_ok_iff.mp styled
  obtain ⟨stroke, drawn, styled⟩ := Except.bind_eq_ok_iff.mp styled
  cases styled
  exact ⟨background, declared, stroke, painted, known, drawn, rfl⟩

private theorem opacity_paint (opacity : α) :
    ∀ declaration ∈ opacityDeclarations opacity, declaration.1 ∈ paintProperties := by
  rw [opacityDeclarations]
  split <;> simp [mem_paintProperties, boxProperties, effectProperties]

theorem blend_unstacked (mode : Option String) :
    ∀ declaration ∈ blendDeclarations mode, declaration.1 ∈ unstackedProperties := by
  rw [blendDeclarations]
  split <;> simp [mem_unstackedProperties, mem_unsharedProperties, mem_plainProperties,
    boxProperties, effectProperties, stackProperties, Classes.sharedProperties]

/-- Opacity and blending leave every other property as it is. -/
private theorem get?_faded {bag : Css.Declarations} {name : String}
    (foreign : name ∉ ["opacity", "mix-blend-mode"]) (opacity : α) (mode : Option String) :
    ((bag.setAll (opacityDeclarations opacity)).setAll (blendDeclarations mode)).get? name =
      bag.get? name := by
  have faded : Css.names (opacityDeclarations opacity) ⊆ ["opacity", "mix-blend-mode"] := by
    rw [opacityDeclarations]
    split <;> simp [Css.names]
  have blended : Css.names (blendDeclarations mode) ⊆ ["opacity", "mix-blend-mode"] := by
    rw [blendDeclarations]
    split <;> simp [Css.names]
  rw [get?_setAll_of_notMem (mt (blended ·) foreign), get?_setAll_of_notMem (mt (faded ·) foreign)]

/-- The text box of a text, and nothing elsewhere, is set over the rest of a style. -/
theorem BoxStyle.ofParts_css (node : NodeProps α) (kind : NodeKind) (background : Css.Declarations)
    (tokens : EffectTokens) (stroke : StrokeCss) :
    ∃ text : Css.Declarations, text.Within textBoxProperties ∧ (kind ≠ .text → text = .empty) ∧
      (BoxStyle.ofParts node kind background tokens stroke).css =
        (((((background.update tokens.css).update stroke.css).update
          (radiusDeclarations kind node)).setAll (opacityDeclarations node.style.opacity)).setAll
            (blendDeclarations node.style.blendMode)).update text := by
  rw [BoxStyle.ofParts]
  dsimp only
  split
  next text found =>
    split at found
    next isText =>
      obtain ⟨data, -, rfl⟩ := Option.map_eq_some_iff.mp found
      exact ⟨_, within_textBox data, fun other => (other (beq_iff_eq.mp isText)).elim, rfl⟩
    · contradiction
  next => exact ⟨.empty, within_empty, fun _ => rfl, rfl⟩

/-- The style of a node declares its look only. -/
theorem within_style {template : String} {node : NodeProps α} {kind : NodeKind} {isHolder : Bool}
    {inherited : List (Shadow α)} {style : BoxStyle}
    (styled : BoxStyle.ofNode template node kind isHolder inherited = .ok style) :
    style.css.Within styleProperties := by
  obtain ⟨background, declared, stroke, painted, -, drawn, rfl⟩ := BoxStyle.ofNode_cases styled
  obtain ⟨text, within, -, same⟩ := BoxStyle.ofParts_css node kind background
    (boxTokens node kind _ _ stroke.boxShadows inherited) stroke
  have paint : paintProperties ⊆ styleProperties := by decide +kernel
  have unstacked : unstackedProperties ⊆ styleProperties := by decide +kernel
  have effects : effectProperties ⊆ styleProperties := by decide +kernel
  have behind := (within_boxBackground painted).mono paint
  have drawn := (within_strokeCss drawn).ofEdge.mono paint
  have rounded := (within_radiusDeclarations kind node).ofEdge.mono paint
  rw [same]
  refine Within.update (Within.setAll (Within.setAll (Within.update (Within.update
    (behind.update ((within_tokens _).mono effects)) drawn) rounded) ?_) ?_)
    (within.ofTextBox.mono unstacked)
  · exact fun declaration member => paint (opacity_paint _ declaration member)
  · exact fun declaration member => unstacked (blend_unstacked _ declaration member)

/-- The layers that a style declares are those of its background. -/
theorem get?_layer_of_style {template : String} {node : NodeProps α} {kind : NodeKind}
    {isHolder : Bool} {inherited : List (Shadow α)} {style : BoxStyle}
    (styled : BoxStyle.ofNode template node kind isHolder inherited = .ok style) {name : String}
    (layer : name ∈ layerProperties) :
    ∃ background, boxBackground template node kind = .ok background ∧
      style.css.get? name = background.get? name := by
  obtain ⟨background, declared, stroke, painted, -, drawn, rfl⟩ := BoxStyle.ofNode_cases styled
  obtain ⟨text, within, -, same⟩ := BoxStyle.ofParts_css node kind background
    (boxTokens node kind _ _ stroke.boxShadows inherited) stroke
  have absent {allowed : List String} (apart : ∀ name ∈ allowed, name ∉ layerProperties) :
      name ∉ allowed := fun member => apart name member layer
  refine ⟨background, painted, ?_⟩
  rw [same, get?_update, get?_faded (absent (by decide)), get?_update, get?_update, get?_update, within.get? (absent (by decide)),
    (within_radiusDeclarations kind node).get? (absent (by decide)),
    (within_strokeCss drawn).get? (absent (by decide)),
    (within_tokens _).get? (absent (by decide))]
  simp

/-- The radius of a box declares its corners, and also whether it clips, unless it is a text. -/
theorem get?_edge_of_style {template : String} {node : NodeProps α} {kind : NodeKind}
    {isHolder : Bool} {inherited : List (Shadow α)} {style : BoxStyle}
    (styled : BoxStyle.ofNode template node kind isHolder inherited = .ok style) {name : String}
    (edge : name = "border-radius" ∨ name = "overflow" ∧ kind ≠ .text) :
    style.css.get? name = (radiusDeclarations kind node).get? name := by
  obtain ⟨background, declared, stroke, painted, -, drawn, rfl⟩ := BoxStyle.ofNode_cases styled
  obtain ⟨text, within, only, same⟩ := BoxStyle.ofParts_css node kind background
    (boxTokens node kind _ _ stroke.boxShadows inherited) stroke
  have labelled : text.get? name = none := by
    rcases edge with rfl | ⟨-, other⟩
    · exact within.get? (by decide)
    · rw [only other]
      rfl
  have corner : name ∈ ["border-radius", "overflow"] := by
    rcases edge with rfl | ⟨rfl, -⟩ <;> simp
  have absent {allowed : List String}
      (apart : ∀ name ∈ ["border-radius", "overflow"], name ∉ allowed) : name ∉ allowed :=
    apart name corner
  rw [same, get?_update, labelled, get?_faded (absent (by decide)), get?_update, get?_update,
    get?_update, (within_stroke drawn).get? (absent (by decide)),
    (within_tokens _).get? (absent (by decide)),
    (within_background painted).get? (absent (by decide))]
  simp

/-- The effects of a box decide what its style declares for their properties. -/
theorem get?_ofParts {node : NodeProps α} {kind : NodeKind} {background : Css.Declarations}
    {tokens : EffectTokens} {stroke : StrokeCss} (behind : background.Within plainProperties)
    (drawn : stroke.css.Within plainProperties) {name : String} (effect : name ∈ effectProperties) :
    (BoxStyle.ofParts node kind background tokens stroke).css.get? name =
      tokens.css.get? name := by
  obtain ⟨text, within, -, same⟩ := BoxStyle.ofParts_css node kind background tokens stroke
  have foreign : name ∉ plainProperties := fun plain => (mem_plainProperties.mp plain).2 effect
  have plain : ["opacity", "mix-blend-mode"] ⊆ plainProperties := by decide +kernel
  rw [same, get?_update, get?_faded (mt (plain ·) foreign), get?_update, get?_update, get?_update,
    within.ofTextBox.ofUnstacked.ofUnshared.get? foreign,
    (within_radiusDeclarations kind node).ofEdge.ofPaint.get? foreign, drawn.get? foreign,
    behind.get? foreign]
  simp

/-- Only a text that is aligned as an item says how its box is displayed. -/
private theorem usesFlex_of_display {text : TextData α} {value : String}
    (declared : (Typography.textBox text).css.get? "display" = some value) :
    (Typography.textBox text).usesFlex = true := by
  unfold Typography.textBox at declared ⊢
  dsimp only at declared ⊢
  have member := mem_of_mem_ofList (get?_eq_some_iff.mp declared)
  simp only [List.mem_append] at member
  rcases member with ((spaces | aligned) | shown) | indented
  · rw [Typography.whiteSpace] at spaces
    split at spaces
    · simp at spaces
    · split at spaces <;> simp at spaces
  · split at aligned <;> simp at aligned
  · rw [Typography.verticalDeclarations.eq_def] at shown
    split at shown
    · simp at shown
    next found => rw [found]; rfl
  · split at indented <;> simp at indented

private theorem textUsesFlex_ofParts {node : NodeProps α} {kind : NodeKind}
    {background : Css.Declarations} {tokens : EffectTokens} {stroke : StrokeCss}
    (behind : background.Within paintProperties)
    (drawn : stroke.css.Within paintProperties) {value : String}
    (declared : (BoxStyle.ofParts node kind background tokens stroke).css.get? "display" =
      some value) :
    (BoxStyle.ofParts node kind background tokens stroke).textUsesFlex = true := by
  have foreign : "display" ∉ paintProperties := by simp [mem_paintProperties]
  have plain : Css.Declarations.get? (((((background.update tokens.css).update stroke.css).update
      (radiusDeclarations kind node)).setAll (opacityDeclarations node.style.opacity)).setAll
        (blendDeclarations node.style.blendMode)) "display" = none := by
    have effect : "display" ∉ effectProperties := by decide
    rw [get?_faded (by decide), get?_update, get?_update, get?_update, (within_radiusDeclarations kind node).ofEdge.get? foreign, drawn.get? foreign,
      (within_tokens tokens).get? effect, behind.get? foreign]
    rfl
  rw [BoxStyle.ofParts] at declared ⊢
  dsimp only at declared ⊢
  split at declared
  next box found =>
    rw [get?_update, plain, Option.or_none] at declared
    split at found
    · obtain ⟨text, -, rfl⟩ := Option.map_eq_some_iff.mp found
      exact usesFlex_of_display declared
    · cases found
  next =>
    rw [plain] at declared
    cases declared

/-- A style that says how its box is displayed is that of a text which is aligned as an item. -/
theorem BoxStyle.textUsesFlex_of_display {template : String} {node : NodeProps α} {kind : NodeKind}
    {isHolder : Bool} {inherited : List (Shadow α)} {style : BoxStyle}
    (styled : BoxStyle.ofNode template node kind isHolder inherited = .ok style) {value : String}
    (declared : style.css.get? "display" = some value) : style.textUsesFlex = true := by
  obtain ⟨background, _, stroke, painted, -, drawn, rfl⟩ := BoxStyle.ofNode_cases styled
  exact textUsesFlex_ofParts (within_boxBackground painted) (within_strokeCss drawn).ofEdge declared

/-! ### Items and masks -/

/-- An item declares its overlap and its order. -/
theorem itemsFrom_css {γ : Type} (style : StackStyle α) (total index position : Nat)
    (groups : List (StackGroup γ)) :
    ∀ item ∈ style.itemsFrom total index position groups, ∀ declaration ∈ item.css.toList,
      (∃ position, declaration ∈ style.overlapCss position) ∨
        ∃ index, declaration ∈ style.orderCss total index := by
  induction groups generalizing index position with
  | nil => simp [StackStyle.itemsFrom]
  | cons group rest ih =>
    cases group with
    | single child =>
      rw [StackStyle.itemsFrom, List.forall_mem_cons]
      refine ⟨fun declaration member => ?_, ih _ _⟩
      exact (List.mem_append.mp (mem_of_mem_ofList member)).imp (⟨_, ·⟩) (⟨_, ·⟩)
    | masked mask covered =>
      rw [StackStyle.itemsFrom, List.forall_mem_cons]
      exact ⟨fun declaration member => .inr ⟨_, mem_of_mem_ofList member⟩, ih _ _⟩

/-- What an entry declares as an item is an overlap or an order. -/
theorem Entry.Carries.cases {entry : Entry α} {css : Css.Declarations}
    (carries : entry.Carries css) : ∀ declaration ∈ css.toList, ∃ (style : StackStyle α),
      (∃ position, declaration ∈ style.overlapCss position) ∨
        ∃ total index, declaration ∈ style.orderCss total index := by
  rw [Entry.Carries.eq_def] at carries
  split at carries
  · obtain ⟨item, member, -, rfl⟩ := carries
    exact fun declaration here =>
      ⟨_, (itemsFrom_css _ _ _ _ _ item member declaration here).imp id (⟨_, ·⟩)⟩
  · subst carries
    exact nofun

theorem Entry.Carries.stacked {entry : Entry α} {css : Css.Declarations}
    (carries : entry.Carries css) : css.Within stackProperties := by
  intro name member
  obtain ⟨declaration, here, rfl⟩ := List.mem_map.mp member
  obtain ⟨style, ⟨position, overlaps⟩ | ⟨total, index, ordered⟩⟩ := carries.cases declaration here
  · rw [StackStyle.overlapCss] at overlaps
    split at overlaps
    · obtain rfl := List.mem_singleton.mp overlaps
      split <;> simp [stackProperties]
    · cases overlaps
  · rw [StackStyle.orderCss] at ordered
    split at ordered
    · obtain rfl := List.mem_singleton.mp ordered
      simp [stackProperties]
    · cases ordered

theorem Entry.Carries.within {entry : Entry α} {css : Css.Declarations}
    (carries : entry.Carries css) : css.Within unsharedProperties :=
  carries.stacked.mono (by decide +kernel)

/-- An item does not say how it is displayed. -/
theorem Entry.Carries.get?_display {entry : Entry α} {css : Css.Declarations}
    (carries : entry.Carries css) : css.get? "display" = none :=
  carries.stacked.get? (by decide)

theorem within_maskCss {template : String} {mask : NodeProps α} {image : Css.Declarations}
    (painted : Paint.maskCss template mask = .ok image) : image.Within unstackedProperties := by
  cases Paint.maskCss_cases painted with
  | blank => exact within_empty
  | image =>
    -- The mask image is declared twice, with and without the prefix of an engine.
    refine within_ofList fun declaration member => ?_
    simp only [Paint.maskDeclarations, List.mem_append, List.mem_cons, List.not_mem_nil,
      or_false] at member
    rcases member with ((rfl | rfl | rfl | rfl) | rfl | rfl | rfl | rfl) | rfl <;>
      simp [mem_unstackedProperties, mem_unsharedProperties, mem_plainProperties, boxProperties,
        effectProperties, stackProperties, Classes.sharedProperties]

theorem within_maskBoxCss {template : String} {mask : NodeProps α} {itemCss css : Css.Declarations}
    (styled : maskBoxCss template mask itemCss = .ok css)
    (item : itemCss.Within plainProperties) : css.Within plainProperties := by
  obtain ⟨image, painted, styled⟩ := Except.bind_eq_ok_iff.mp styled
  cases styled
  have declared : "overflow" ∈ plainProperties ∧ "border-radius" ∈ plainProperties := by
    simp [mem_plainProperties, boxProperties, effectProperties]
  refine (Within.update (Within.set ?_ declared.1)
    (within_maskCss painted).ofUnstacked.ofUnshared).update item
  split
  · exact (within_radiusCss _).ofEdge.ofPaint.set declared.2
  · exact (within_radiusCss _).ofEdge.ofPaint

/-- The box of a mask declares as an item what its item does. -/
theorem get?_maskBoxCss {template : String} {mask : NodeProps α} {itemCss css : Css.Declarations}
    (styled : maskBoxCss template mask itemCss = .ok css) {name : String}
    (stacked : name ∈ stackProperties) : css.get? name = itemCss.get? name := by
  obtain ⟨image, painted, styled⟩ := Except.bind_eq_ok_iff.mp styled
  cases styled
  have foreign : name ∉ paintProperties ∧ name ∉ unstackedProperties := by
    revert name
    decide +kernel
  have differs : name ≠ "overflow" ∧ name ≠ "border-radius" := by
    revert name
    decide +kernel
  have rounded := (within_radiusCss mask.style.radii).ofEdge.get? foreign.1
  rw [get?_update, get?_update, (within_maskCss painted).get? foreign.2, get?_set, if_neg differs.1]
  split
  · rw [get?_set, if_neg differs.2, rounded, Option.none_or, Option.or_none]
  · rw [rounded, Option.none_or, Option.or_none]

/-- The layers that the box of a mask declares are those of its image. -/
theorem get?_layer_of_mask {template : String} {mask : NodeProps α} {itemCss css : Css.Declarations}
    (styled : maskBoxCss template mask itemCss = .ok css) (item : itemCss.Within stackProperties)
    {name : String} (layer : name ∈ layerProperties) :
    ∃ image, Paint.maskCss template mask = .ok image ∧ css.get? name = image.get? name := by
  obtain ⟨image, painted, styled⟩ := Except.bind_eq_ok_iff.mp styled
  cases styled
  have apart : ∀ name ∈ layerProperties, name ∉ stackProperties ++ edgeProperties := by decide
  have foreign := apart name layer
  rw [List.mem_append, not_or] at foreign
  have edge : name ≠ "overflow" ∧ name ≠ "border-radius" := by
    constructor <;> rintro rfl <;> exact foreign.2 (by decide)
  have rounded := (within_radiusCss mask.style.radii).get? foreign.2
  refine ⟨image, painted, ?_⟩
  rw [get?_update, get?_update, item.get? foreign.1, get?_set, if_neg edge.1]
  split
  · rw [get?_set, if_neg edge.2, rounded, Option.none_or, Option.or_none]
  · rw [rounded, Option.none_or, Option.or_none]

/-- The box of a node declares as an item what its item does. -/
theorem get?_nodeBox {template : String} {node : NodeProps α} {flows : Bool}
    {place : Surroundings α} {box : SceneBox α}
    (returned : Compile.Returns (compileBox template node flows place) box) {name : String}
    (stacked : name ∈ stackProperties) : box.declarations.get? name = place.itemCss.get? name := by
  obtain ⟨-, _, _, _, -, styled, -, rfl⟩ := compileBox_cases returned
  have foreign : name ∉ styleProperties := fun member => (mem_styleProperties.mp member).2 stacked
  rw [nodeBox, get?_update, (within_style styled).get? foreign, Option.none_or]

/-! ### Compiled boxes -/

/-- A compiled box declares its look only. -/
theorem within_declarations {template : String} {root : Affine α} {entry : Entry α}
    {box : SceneBox α} (compiled : CompiledAs template root entry box) :
    box.declarations.Within boxProperties := by
  cases compiled with
  | node alone placed returned =>
    obtain ⟨-, _, _, _, -, styled, -, rfl⟩ := compileBox_cases returned
    exact placed.itemCss.within.ofUnshared.ofPlain.update
      ((within_style styled).mono fun _ member => (mem_styleProperties.mp member).1)
  | group grouped placed inverted known styled =>
    exact (within_maskBoxCss styled placed.itemCss.within.ofUnshared).ofPlain

/-- What a layout declares for the children of a box. -/
def containerProperties : List String :=
  ["display", "flex-direction", "justify-content", "align-items", "flex-wrap", "gap", "row-gap",
   "column-gap", "padding", "box-sizing", "overflow"]

/-- What a layout declares for the part of a box in the flow. -/
def itemProperties : List String := ["flex-grow", "flex-shrink", "flex-basis", "align-self"]

theorem mem_givenDeclaration {name : String} {value : Option String}
    {declaration : Css.Declaration} (member : declaration ∈ givenDeclaration name value) :
    declaration.1 = name := by
  rw [givenDeclaration.eq_def] at member
  split at member
  · split at member <;> simp_all
  · simp at member

theorem mem_pxDeclaration {name : String} {value : Option α}
    {declaration : Css.Declaration} (member : declaration ∈ pxDeclaration name value) :
    ∃ length : α, declaration = (name, Css.px length) := by
  rw [pxDeclaration.eq_def] at member
  split at member
  next length => exact ⟨length, by simpa using member⟩
  · simp at member

/-- A container declares its gaps in pixels. -/
theorem containerCss_cases {layout : Layout α} {declaration : Css.Declaration}
    (member : declaration ∈ layout.containerCss.toList) :
    declaration.1 ∈ containerProperties ∧
      (declaration.1 ∈ Classes.gapProperties → ∃ length : α, declaration.2 = Css.px length) := by
  replace member := mem_of_mem_ofList member
  simp only [List.mem_append] at member
  rcases member with ((flex | padding) | sizing) | overflow
  · split at flex
    case isFalse => simp at flex
    simp only [Layout.flexDeclarations, List.mem_append, List.mem_singleton] at flex
    rcases flex with
      ((((((rfl | direction) | justify) | align) | wrap) | gap) | rowGap) | columnGap
    · simp [containerProperties, Classes.gapProperties]
    · simp [mem_givenDeclaration direction, containerProperties, Classes.gapProperties]
    · simp [mem_givenDeclaration justify, containerProperties, Classes.gapProperties]
    · simp [mem_givenDeclaration align, containerProperties, Classes.gapProperties]
    · simp [mem_givenDeclaration wrap, containerProperties, Classes.gapProperties]
    · obtain ⟨length, rfl⟩ := mem_pxDeclaration gap
      exact ⟨by simp [containerProperties], fun _ => ⟨length, rfl⟩⟩
    · obtain ⟨length, rfl⟩ := mem_pxDeclaration rowGap
      exact ⟨by simp [containerProperties], fun _ => ⟨length, rfl⟩⟩
    · obtain ⟨length, rfl⟩ := mem_pxDeclaration columnGap
      exact ⟨by simp [containerProperties], fun _ => ⟨length, rfl⟩⟩
  · split at padding
    · obtain rfl := List.mem_singleton.mp padding
      simp [containerProperties, Classes.gapProperties]
    · simp at padding
  · simp [mem_givenDeclaration sizing, containerProperties, Classes.gapProperties]
  · simp [mem_givenDeclaration overflow, containerProperties, Classes.gapProperties]

theorem within_itemCss (layout : Layout α) : layout.itemCss.Within itemProperties := by
  refine within_ofList fun declaration member => ?_
  rcases List.mem_append.mp member with grows | aligned
  · split at grows
    case isFalse => simp at grows
    simp only [Layout.growDeclarations, List.mem_append, List.mem_singleton] at grows
    rcases grows with (rfl | shrinks) | based
    · simp [itemProperties]
    · split at shrinks <;> simp_all [itemProperties]
    · split at based <;> simp_all [itemProperties]
  · split at aligned
    · simp at aligned
    · simp [mem_givenDeclaration aligned, itemProperties]

end Artboard
