import Artboard.Proofs.Css.Numbers
import Artboard.Proofs.Layout.Computation
import Artboard.Proofs.Scene.Shadows

/-!
# Settled parts of a style

What a node names freely becomes part of values as it is: lengths that are no
numbers, blend modes, addresses of images and families of fonts. Where these close
what they open, the layout, the paints, the effects and the stroke of the node do.
-/
namespace Artboard

open Css Css.Declarations

variable {α : Type} [Scalar α]

/-- What the node names freely is settled in the values that it becomes part of. -/
structure NodeProps.Settled (template : String) (node : NodeProps α) : Prop where
  lengths : ∀ axis text, node.dimension axis = some (.symbolic text) → Css.Settled text
  blending : Css.Settled (Paint.blendModeCss node.style.blendMode)
  layers : ∀ paint ∈ node.style.fills, Css.Settled (Paint.blendModeCss paint.blendMode)
  images : ∀ paint ∈ node.style.fills, ∀ source ∈ paint.image?, ∀ imageId ∈ source.imageId,
    ∀ url, Paint.imageUrl template imageId = .ok url → Css.Settled (Paint.quotedUrl url)
  families : ∀ text ∈ node.text, ∀ segment ∈ text.segments, ∀ font ∈ segment.fontName,
    Css.Settled (Typography.fontStack font.family)

/-! ### Layouts -/

/-- The text is settled where there is one. -/
def SettledIf (value : Option String) : Prop := ∀ text ∈ value, Css.Settled text

theorem settledIf_none : SettledIf none := nofun

theorem settledIf_some {text : String} (settled : Css.Settled text) : SettledIf (some text) := by
  rintro _ ⟨⟩
  exact settled

/-- The texts of the layout are settled. -/
structure Layout.Settled (layout : Layout α) : Prop where
  width : SettledIf layout.cssWidth
  height : SettledIf layout.cssHeight
  direction : SettledIf layout.container.direction
  justify : SettledIf layout.container.justifyContent
  align : SettledIf layout.container.alignItems
  wrap : SettledIf layout.container.wrap
  sizing : SettledIf layout.boxSizing
  overflow : SettledIf layout.overflow
  basis : SettledIf (layout.item.basis.bind Dimension.symbol?)
  self : SettledIf layout.item.alignSelf

namespace Layout

/-- A layout that was only placed has no texts. -/
private theorem settled_ofPlace (place : Place α) : (ofPlace place).Settled := by
  constructor <;> exact settledIf_none

omit [Scalar α] in
private theorem Settled.setAuto {layout : Layout α} (settled : layout.Settled) (axis : Axis) :
    (layout.setAuto axis).Settled := by
  cases axis with
  | width => exact { settled with width := settledIf_some (by decide) }
  | height => exact { settled with height := settledIf_some (by decide) }

omit [Scalar α] in
private theorem Settled.hug {layout : Layout α} (settled : layout.Settled) (hugs : Bool)
    (axis : Axis) : (layout.hug hugs axis).Settled := by
  simp only [Layout.hug]
  generalize (hugs && !_) = autos
  cases autos
  · exact settled
  · exact settled.setAuto axis

private theorem settled_inFlow (node : NodeProps α) (kind : NodeKind) (flow : Flow)
    (place : Place α) (map : Affine α) (size : Size α) :
    (inFlow node kind flow place map size).Settled := by
  have aligned : SettledIf (some node.layoutAlign.alignSelf) := by
    cases node.layoutAlign <;> exact settledIf_some (by decide)
  have item (size : Size α) : SettledIf ((flowItem node kind flow size).basis.bind
      Dimension.symbol?) ∧ SettledIf (flowItem node kind flow size).alignSelf := by
    unfold flowItem
    dsimp only
    split
    · refine ⟨?_, aligned⟩
      dsimp only
      split
      · exact settledIf_some (by decide)
      · exact settledIf_none
    · exact ⟨settledIf_none, aligned⟩
  have placed (size : Size α) (wrapper : Option (Wrapper α)) : Settled { ofPlace place with
      position := .relative, left := 0.0, top := 0.0, origin := .center
      width := size.width, height := size.height, wrapper
      item := flowItem node kind flow size } :=
    { settled_ofPlace place with basis := (item size).1, self := (item size).2 }
  simp only [inFlow]
  split
  · exact (placed _ _).setAuto _
  · exact placed _ _

omit [Scalar α] in
private theorem Settled.withSymbolicLengths {layout : Layout α} (settled : layout.Settled)
    {node : NodeProps α}
    (lengths : ∀ axis text, node.dimension axis = some (.symbolic text) → Css.Settled text) :
    (layout.withSymbolicLengths node).Settled := by
  have declared {current : Option String} (before : SettledIf current) (axis : Axis)
      {text : String} (known : node.dimension axis = some (.symbolic text)) :
      SettledIf (if isGiven current then current else some text) := by
    split
    · exact before
    · exact settledIf_some (lengths axis text known)
  unfold Layout.withSymbolicLengths
  refine { settled with width := ?_, height := ?_ }
  · dsimp only
    split
    next known => exact declared settled.width .width known
    · exact settled.width
  · dsimp only
    split
    next known => exact declared settled.height .height known
    · exact settled.height

private theorem Settled.withContainer {layout : Layout α} (settled : layout.Settled)
    (node : NodeProps α) (flows : Bool) : (layout.withContainer node flows).Settled := by
  have justified (align : AxisAlign) : SettledIf align.justifyContent := by
    cases align <;> first | exact settledIf_none | exact settledIf_some (by decide)
  have aligned (align : AxisAlign) : SettledIf align.alignItems := by
    cases align <;> first | exact settledIf_none | exact settledIf_some (by decide)
  have contained : Settled { layout with display := .flex, container := flexContainer node } :=
    { settled with
      direction := settledIf_some (by split <;> decide)
      justify := justified _
      align := aligned _
      wrap := settledIf_some (by split <;> decide) }
  have flowing : (layout.withFlow node flows).Settled := by
    simp only [withFlow]
    split
    · split
      · exact (contained.hug _ _).hug _ _
      · exact contained
    · exact settled
  exact { flowing with
    sizing := by
      change SettledIf (if node.strokesIncludedInLayout then some "border-box" else none)
      split
      · exact settledIf_some (by decide)
      · exact settledIf_none
    overflow := by
      change SettledIf (if node.clipsContent then some "hidden" else none)
      split
      · exact settledIf_some (by decide)
      · exact settledIf_none }

/-- The texts of a computed layout are keywords and lengths of the node. -/
theorem settled_compute {node : NodeProps α} {flows : Bool} {parent : Affine α}
    {flow : Option Flow} {layout : Layout α}
    (lengths : ∀ axis text, node.dimension axis = some (.symbolic text) → Css.Settled text)
    (computed : compute node flows parent flow = .ok layout) : layout.Settled := by
  have filled {start : Layout α} (settled : start.Settled) : (start.filled node flows).Settled := by
    unfold Layout.filled
    split
    · exact (settled.withSymbolicLengths lengths).withContainer node flows
    · exact settled.withSymbolicLengths lengths
  obtain ⟨own, inverse, place, -, -, -, ⟨-, rfl⟩ | ⟨taken, size, -, -, rfl⟩⟩ :=
    compute_eq_ok_iff.mp computed
  · exact filled (settled_ofPlace place)
  · exact filled (settled_inFlow ..)

theorem settled_maskLayout (mask : NodeProps α) (map : Affine α) (inFlow : Bool) :
    (maskLayout mask map inFlow).Settled := by
  unfold maskLayout
  dsimp only
  split <;> constructor <;> exact settledIf_none

private theorem settled_givenDeclaration {name : String} {value : Option String}
    (word : IsWord name.toList) (given : SettledIf value) :
    ∀ declaration ∈ givenDeclaration name value, declaration.Settled := by
  rw [givenDeclaration.eq_def]
  split
  next text =>
    split
    · simp
    · simpa using ⟨word, given text rfl⟩
  · simp

private theorem settled_pxDeclaration {name : String} (word : IsWord name.toList)
    (value : Option α) : ∀ declaration ∈ pxDeclaration name value, declaration.Settled := by
  rw [pxDeclaration.eq_def]
  split
  · simpa using ⟨word, settled_px _⟩
  · simp

theorem settled_pixels (values : List α) :
    Css.Settled (String.intercalate " " (values.map px)) := by
  refine settled_intercalate (by decide) fun text member => ?_
  obtain ⟨value, -, rfl⟩ := List.mem_map.mp member
  exact settled_px value

theorem Settled.containerCss {layout : Layout α} (settled : layout.Settled) :
    layout.containerCss.Settled := by
  refine settled_ofList ?_
  simp only [List.forall_mem_append]
  refine ⟨⟨⟨?_, ?_⟩, settled_givenDeclaration (by decide) settled.sizing⟩,
    settled_givenDeclaration (by decide) settled.overflow⟩
  · split
    · simp only [flexDeclarations, List.forall_mem_append, List.forall_mem_singleton]
      exact ⟨⟨⟨⟨⟨⟨⟨.of (by decide) (by decide), settled_givenDeclaration (by decide) settled.direction⟩,
        settled_givenDeclaration (by decide) settled.justify⟩,
        settled_givenDeclaration (by decide) settled.align⟩,
        settled_givenDeclaration (by decide) settled.wrap⟩, settled_pxDeclaration (by decide) _⟩,
        settled_pxDeclaration (by decide) _⟩, settled_pxDeclaration (by decide) _⟩
    · simp
  · split
    next sides _ =>
      have settled : Css.Settled (sidesCss sides) := settled_pixels sides.toList
      simpa using Declaration.Settled.of (by decide) settled
    · simp

theorem Settled.itemCss [Scalar.SettledTexts α] {layout : Layout α} (settled : layout.Settled) :
    layout.itemCss.Settled := by
  refine settled_ofList ?_
  rw [List.forall_mem_append]
  constructor
  · split
    · simp only [growDeclarations, List.forall_mem_append, List.forall_mem_singleton]
      refine ⟨⟨.of (by decide) (settled_plainNumber _), ?_⟩, ?_⟩
      · split
        · simpa using Declaration.Settled.of (by decide) (settled_plainNumber _)
        · simp
      · have basis := settled.basis
        split
        next text known =>
          have settled : Css.Settled text := basis text (by simp [known, Dimension.symbol?])
          simpa using Declaration.Settled.of (by decide) settled
        · simpa using Declaration.Settled.of (by decide) (settled_px _)
        · simp
    · simp
  · split
    · simp
    · exact settled_givenDeclaration (by decide) settled.self

end Layout

/-! ### Paints -/

namespace Paint

theorem settled_colorCss {color : Color α} {opacity : α} {text : String}
    (written : colorCss color opacity = .ok text) : Css.Settled text :=
  (isCall_colorCss written).settled

private theorem settled_stopCss {opacity : α} {stop : GradientStop α} {text : String}
    (written : stopCss opacity stop = .ok text) : Css.Settled text := by
  obtain ⟨color, colored, rfl⟩ := stopCss_cases written
  exact (((settled_colorCss colored).append (by decide)).append
    (Fixed.settled_signed _ _)).append (by decide)

/-- What stands before the stops opens a parenthesis, which the gradient closes behind them. -/
private theorem opens_opening {gradient : Gradient α} {width height : α} {text : String}
    (opening : GradientOpening gradient width height text) : Opens text := by
  cases opening with
  | linear =>
    exact ((show Opens "linear-gradient(" by decide).append (settled_int _)).append
      (show Css.Settled "deg, " by decide)
  | radial => decide
  | angular => decide
  | diamond => decide

theorem settled_gradientCss {gradient : Gradient α} {opacity width height : α} {text : String}
    (written : gradientCss gradient opacity width height = .ok (some text)) :
    Css.Settled text := by
  cases gradientCss_cases written with
  | several _ opening visited =>
    refine ((opens_opening opening).append (settled_intercalate (by decide) fun text member => ?_))
      |>.close (by decide)
    obtain ⟨stop, -, written⟩ := exists_of_mem_right visited member
    exact settled_stopCss written

/-- The texts of the layer are settled. -/
structure Layer.Settled (layer : Layer) : Prop where
  image : Css.Settled layer.image
  size : Css.Settled layer.size
  position : Css.Settled layer.position
  repetition : Css.Settled layer.repetition
  blend : Css.Settled layer.blend
  color : SettledIf layer.color

/-- The texts of the placement are settled. -/
structure Placement.Settled (placement : Placement) : Prop where
  size : Css.Settled placement.size
  position : Css.Settled placement.position
  repetition : Css.Settled placement.repetition

theorem Placement.settled_ofImage (image : ImageSource α) (width height : α) :
    (Placement.ofImage image width height).Settled := by
  have mode (mode : ScaleMode) : (Placement.ofMode mode).Settled := by
    cases mode <;> constructor <;> decide
  have lengths (x y : α) : Css.Settled (Placement.lengths x y) :=
    (((Fixed.settled_signed _ _).append (show Css.Settled "px " by decide)).append
      (Fixed.settled_signed _ _)).append (show Css.Settled "px" by decide)
  unfold Placement.ofImage
  split
  · split
    · exact ⟨lengths _ _, lengths _ _, (by decide : Css.Settled "no-repeat")⟩
    · exact mode _
  · exact mode _

private theorem settled_layer {template : String} {width height : α} {paint : Artboard.Paint α}
    {layer : Layer} (blend : Css.Settled (blendModeCss paint.blendMode))
    (images : ∀ source ∈ paint.image?, ∀ imageId ∈ source.imageId,
      ∀ url, imageUrl template imageId = .ok url → Css.Settled (quotedUrl url))
    (painted : LayerOf template width height paint layer) : layer.Settled := by
  have plain {kind : LayerKind} {image : String} {color : Option String}
      (drawn : Css.Settled image) (colored : SettledIf color) :
      (⟨kind, image, "auto", "center", "no-repeat", blendModeCss paint.blendMode, color⟩ :
        Layer).Settled :=
    ⟨drawn, (by decide : Css.Settled "auto"), (by decide : Css.Settled "center"),
      (by decide : Css.Settled "no-repeat"), blend, colored⟩
  cases painted with
  | @image source id url known named _ expanded =>
    have placement := Placement.settled_ofImage source width height
    exact ⟨images source known id named url expanded, placement.size, placement.position,
      placement.repetition, blend, settledIf_none⟩
  | gradient _ written => exact plain (settled_gradientCss written) settledIf_none
  | solid _ written =>
    have colored := settled_colorCss written
    refine plain ?_ (settledIf_some colored)
    exact (((show Opens "linear-gradient(0deg, " by decide).append colored).append
      (show Css.Settled " 0%, " by decide)).append colored |>.close
        (show Closes " 100%)" by decide)

theorem settled_background {template : String} {node : NodeProps α} {bag : Css.Declarations}
    (settled : node.Settled template) (painted : BackgroundOf template node bag) :
    bag.Settled := by
  have each {found : List Layer} (drawn : layers template node = .ok found) :
      ∀ layer ∈ found, layer.Settled := by
    intro layer member
    obtain ⟨paint, filled, -, painted⟩ := exists_layerOf_of_layers drawn layer member
    exact settled_layer (settled.layers paint filled) (settled.images paint filled) painted
  cases painted with
  | blank => exact settled_empty
  | @single layer drawn =>
    have whole := each drawn layer (.head _)
    refine settled_ofList ?_
    rw [singleLayer]
    split
    · have drawn : Css.Settled (layer.color.getD layer.image) := by
        cases colored : layer.color with
        | none => exact whole.image
        | some color => exact whole.color color colored
      simpa using Declaration.Settled.of (by decide) drawn
    · simpa using Declaration.Settled.of (by decide) whole.image
    · simp only [List.forall_mem_cons, List.not_mem_nil, false_imp_iff, forall_true_iff, and_true]
      exact ⟨.of (by decide) whole.image, .of (by decide) whole.position,
        .of (by decide) whole.size, .of (by decide) whole.repetition⟩
  | @several found drawn =>
    have joined {value : Layer → String} (written : ∀ layer ∈ found, Css.Settled (value layer)) :
        Css.Settled (joined value found) :=
      settled_intercalate (by decide) (List.forall_mem_map.mpr written)
    refine settled_ofList ?_
    rw [severalLayers, List.forall_mem_append]
    constructor
    · simp only [List.forall_mem_cons, List.not_mem_nil, false_imp_iff, forall_true_iff, and_true]
      exact ⟨.of (by decide) (joined fun layer member => (each drawn layer member).image),
        .of (by decide) (joined fun layer member => (each drawn layer member).position),
        .of (by decide) (joined fun layer member => (each drawn layer member).size),
        .of (by decide) (joined fun layer member => (each drawn layer member).repetition)⟩
    · split
      · simpa using Declaration.Settled.of (by decide)
          (joined fun layer member => (each drawn layer member).blend)
      · simp

theorem settled_radiusCss (radii : Option (Radii α)) : (radiusCss radii).Settled := by
  have declared := radiusOf_radiusCss radii
  generalize radiusCss radii = radius at declared
  cases declared with
  | square => exact settled_empty
  | uniform => exact settled_ofList (by simpa using Declaration.Settled.of (by decide) (settled_px _))
  | @each _ corners =>
    have settled : Css.Settled (cornersCss corners) := Layout.settled_pixels corners.toList
    exact settled_ofList (by simpa using Declaration.Settled.of (by decide) settled)

theorem settled_maskCss {template : String} {mask : NodeProps α} {image : Css.Declarations}
    (settled : mask.Settled template) (painted : maskCss template mask = .ok image) :
    image.Settled := by
  cases maskCss_cases painted with
  | blank => exact settled_empty
  | @image paint source id url mode filled known named _ expanded word =>
    have written := settled.images paint filled source known id named url expanded
    have placement := Placement.settled_ofImage source (mask.numericLength .width)
      (mask.numericLength .height)
    have said : Css.Settled mode := by
      have words : ∀ word ∈ ["luminance", "alpha"], Css.Settled word := by decide
      exact words mode word
    refine settled_ofList ?_
    simp only [maskDeclarations, List.forall_mem_append, List.forall_mem_cons, List.not_mem_nil,
      false_imp_iff, forall_true_iff, and_true]
    exact ⟨⟨⟨.of (by decide) written, .of (by decide) placement.size,
      .of (by decide) placement.position, .of (by decide) placement.repetition⟩,
      .of (by decide) written, .of (by decide) placement.size,
      .of (by decide) placement.position, .of (by decide) placement.repetition⟩,
      .of (by decide) said⟩

end Paint

/-! ### Effects and strokes -/

namespace EffectTokens

/-- The tokens are settled. -/
structure Settled (tokens : EffectTokens) : Prop where
  boxShadows : ∀ token ∈ tokens.boxShadows, Css.Settled token
  textShadows : ∀ token ∈ tokens.textShadows, Css.Settled token
  filters : ∀ token ∈ tokens.filters, Css.Settled token
  backdropFilters : ∀ token ∈ tokens.backdropFilters, Css.Settled token

private theorem settled_tokens {shadow : Shadow α} (colored : Css.Settled shadow.color) :
    Css.Settled shadow.boxToken ∧ Css.Settled shadow.textToken ∧ Css.Settled shadow.dropToken := by
  have blank : Css.Settled " " := by decide
  have inset : Css.Settled (if shadow.inner then "inset " else "") := by split <;> decide
  refine ⟨?box, ?text, ?drop⟩
  case box =>
    exact ((((((((inset.append (settled_px _)).append blank).append (settled_px _)).append
      blank).append (settled_px _)).append blank).append (settled_px _)).append blank).append
        colored
  case text =>
    exact ((((((settled_px _).append blank).append (settled_px _)).append blank).append
      (settled_px _)).append blank).append colored
  case drop =>
    have offsets : Opens ("drop-shadow(" ++ px shadow.x ++ " " ++ px shadow.y ++ " " ++
        px shadow.blur ++ " ") :=
      ((((((show Opens "drop-shadow(" by decide).append (settled_px _)).append blank).append
        (settled_px _)).append blank).append (settled_px _)).append blank
    exact (offsets.append colored).close (show Closes ")" by decide)

/-- Tokens are settled where the colours of the shadows are. -/
theorem settled_boxTokens {node : NodeProps α} {kind : NodeKind} {paints : Bool}
    {effects : EffectSet α} {strokeShadows : List String} {inherited : List (Shadow α)}
    (own : ∀ shadow ∈ effects.shadows, Css.Settled shadow.color)
    (handed : ∀ shadow ∈ inherited, Css.Settled shadow.color)
    (strokes : ∀ token ∈ strokeShadows, Css.Settled token) :
    (boxTokens node kind paints effects strokeShadows inherited).Settled := by
  have all := all_boxTokens node kind paints
    (fun shadow member => settled_tokens (own shadow member))
    (fun shadow member => settled_tokens (handed shadow member)) strokes
    fun _ _ member => (isCall_blurToken member).settled
  simp only [All, List.forall_mem_append] at all
  exact ⟨all.1.1.1, all.1.1.2, all.1.2, all.2⟩

theorem Settled.css {tokens : EffectTokens} (settled : tokens.Settled) : tokens.css.Settled := by
  have listed {name separator : String} (word : IsWord name.toList)
      (between : Css.Settled separator) {values : List String}
      (each : ∀ value ∈ values, Css.Settled value) :
      ∀ declaration ∈ listDeclaration name separator values, declaration.Settled := by
    rw [listDeclaration]
    split
    · simp
    · simpa using Declaration.Settled.of word (settled_intercalate between each)
  refine settled_ofList ?_
  simp only [List.forall_mem_append]
  exact ⟨⟨⟨⟨listed (by decide) (by decide) settled.boxShadows,
    listed (by decide) (by decide) settled.textShadows⟩,
    listed (by decide) (by decide) settled.filters⟩,
    listed (by decide) (by decide) settled.backdropFilters⟩,
    listed (by decide) (by decide) settled.backdropFilters⟩

end EffectTokens

theorem IsInsetStroke.settled {token : String} (stroke : IsInsetStroke α token) :
    Css.Settled token := by
  obtain ⟨width, color, call, rfl⟩ := stroke
  exact (((show Css.Settled "inset 0 0 0 " by decide).append (settled_px width)).append
    (show Css.Settled " " by decide)).append call.settled

private theorem settled_textStroke {spec : StrokeSpec α} {color : String}
    (solid : spec.paint = .solid color) (colored : Css.Settled color) :
    spec.textStroke.css.Settled := by
  have written : Css.Settled s!"{px spec.weights.max} {color}" :=
    ((settled_px _).append (show Css.Settled " " by decide)).append colored
  rw [StrokeSpec.textStroke, solid]
  refine settled_ofList ?_
  rw [List.forall_mem_append, List.forall_mem_singleton]
  refine ⟨.of (by decide) written, ?_⟩
  split
  · simpa using Declaration.Settled.of (by decide) (by decide)
  · simp

private theorem settled_nativeStroke (spec : StrokeSpec α) {color : String}
    (colored : Css.Settled color) : (spec.nativeStroke color).css.Settled := by
  have bordered : Css.Settled s!"{px spec.weights.top} solid {color}" :=
    ((settled_px _).append (show Css.Settled " solid " by decide)).append colored
  rw [StrokeSpec.nativeStroke]
  cases spec.align with
  | inside => exact settled_empty
  | center => exact settled_ofList (by simpa using Declaration.Settled.of (by decide) bordered)
  | outside =>
    refine settled_ofList ?_
    rw [List.forall_mem_cons, List.forall_mem_singleton]
    exact ⟨.of (by decide) bordered, .of (by decide) (by decide)⟩

theorem settled_strokeCss {node : NodeProps α} {shadows : List (Shadow α)} {stroke : StrokeCss}
    (drawn : StrokeCss.ofNode node shadows = .ok stroke) :
    stroke.css.Settled ∧ ∀ token ∈ stroke.boxShadows, Css.Settled token := by
  constructor
  · rcases StrokeCss.ofNode_cases drawn with ⟨-, rfl⟩ | ⟨spec, found, drawn⟩
    · exact settled_empty
    cases drawn with
    | weightless => exact settled_empty
    | hidden => exact settled_empty
    | vector => exact settled_empty
    | glyphs _ _ solid => exact settled_textStroke solid (isCall_solid found solid).settled
    | box _ _ _ boxed =>
      -- A stroke of the pseudo-element leaves the box alone.
      cases boxed with
      | ring => exact settled_empty
      | dashes => exact settled_empty
      | border => exact settled_empty
      | native solid => exact settled_nativeStroke spec (isCall_solid found solid).settled
  · rcases boxShadows_cases drawn with none | ⟨token, one, inset⟩
    · simp [none]
    · simpa [one] using inset.settled

end Artboard
