import Artboard.Proofs.Stroke.Look

/-!
# The mechanism of a stroke

A stroke that is shown is drawn by one mechanism: by declarations of the box, by an
inset shadow among its shadows, or by a pseudo-element. Which one is decided by the
paint, the dashes and the weights, and by whether the box has shadows already.
-/
namespace Artboard

open Css Css.Declarations

variable {α : Type} [Scalar α]

/-! ### Conversions -/

theorem exists_nearestInt_iff {value : α} :
    (∃ nearest, nearestInt value = .ok nearest) ↔ Scalar.isFinite value = true := by
  unfold nearestInt Scalar.isFinite
  cases Scalar.exact value <;> simp [Exact.isFinite]

namespace Paint

/-- The channels of the colour become bytes. -/
structure HasBytes (color : Color α) : Prop where
  r : Scalar.isFinite (color.r * 255.0) = true
  g : Scalar.isFinite (color.g * 255.0) = true
  b : Scalar.isFinite (color.b * 255.0) = true

theorem exists_colorCss_iff {color : Color α} (opacity : α) :
    (∃ text, colorCss color opacity = .ok text) ↔ HasBytes color := by
  constructor
  · rintro ⟨text, written⟩
    have bytes {r g b : Int} (channels : Channels color r g b) : HasBytes color :=
      ⟨exists_nearestInt_iff.mp ⟨r, channels.red⟩, exists_nearestInt_iff.mp ⟨g, channels.green⟩,
        exists_nearestInt_iff.mp ⟨b, channels.blue⟩⟩
    cases colorCss_cases written with
    | full channels => exact bytes channels
    | sheer channels => exact bytes channels
  · intro bytes
    obtain ⟨r, red⟩ := exists_nearestInt_iff.mpr bytes.r
    obtain ⟨g, green⟩ := exists_nearestInt_iff.mpr bytes.g
    obtain ⟨b, blue⟩ := exists_nearestInt_iff.mpr bytes.b
    rw [colorCss, red, green, blue]
    exact ⟨_, rfl⟩

/-- The stops of the gradient have bytes, and its direction in a box has a whole angle. -/
structure HasAngle (gradient : Gradient α) (width height : α) : Prop where
  stops : ∀ stop ∈ gradient.stops, HasBytes stop.color
  angle : ∃ angle, linearAngle gradient width height = .ok angle

theorem exists_stopCss_iff {stop : GradientStop α} (opacity : α) :
    (∃ text, stopCss opacity stop = .ok text) ↔ HasBytes stop.color := by
  rw [← exists_colorCss_iff opacity]
  constructor
  · rintro ⟨text, written⟩
    obtain ⟨color, known, -⟩ := Except.bind_eq_ok_iff.mp written
    exact ⟨color, known⟩
  · rintro ⟨color, known⟩
    rw [stopCss, known]
    exact ⟨_, rfl⟩

/-- A linear gradient with two stops has a value exactly where its stops and its angle do. -/
theorem exists_gradientCss_iff {gradient : Gradient α} (opacity : α) {width height : α}
    (linear : gradient.kind = .linear) (several : 2 ≤ gradient.stops.length) :
    (∃ value?, gradientCss gradient opacity width height = .ok value?) ↔
      HasAngle gradient width height := by
  have enough : ¬ gradient.stops.length < 2 := by omega
  rw [gradientCss, if_neg enough, linear]
  constructor
  · rintro ⟨value?, written⟩
    obtain ⟨stops, each, written⟩ := Except.bind_eq_ok_iff.mp written
    obtain ⟨angle, known, -⟩ := Except.bind_eq_ok_iff.mp written
    refine ⟨fun stop member => ?_, angle, known⟩
    obtain ⟨text, -, written⟩ := exists_of_mem_left (Except.forall₂_of_mapM each) member
    exact (exists_stopCss_iff opacity).mp ⟨text, written⟩
  · rintro ⟨each, angle, known⟩
    obtain ⟨stops, written⟩ := Except.exists_mapM fun stop member =>
      (exists_stopCss_iff opacity).mpr (each stop member)
    rw [written, known]
    exact ⟨_, rfl⟩

end Paint

/-- The numbers of the paint become integers where they have to. -/
def NodeProps.Converts (node : NodeProps α) : PaintSource α → Prop
  | .solid color => Paint.HasBytes color
  | .gradient ramp => Paint.HasAngle ramp (node.numericLength .width) (node.numericLength .height)
  | .image _ => True

private theorem exists_of_converts {node : NodeProps α}
    (converts : ∀ paint, node.style.strokePaint? = some paint → paint.source.CanStroke →
      node.Converts paint.source) :
    ∃ spec?, StrokeSpec.ofNode node = .ok spec? := by
  unfold StrokeSpec.ofNode
  dsimp only
  split
  · exact ⟨_, rfl⟩
  next paint first =>
    replace converts := converts paint first
    split
    next color solid =>
      rw [solid] at converts
      obtain ⟨text, written⟩ := (Paint.exists_colorCss_iff paint.opacity).mpr (converts trivial)
      rw [written]
      exact ⟨_, rfl⟩
    next ramp isGradient =>
      rw [isGradient] at converts
      split
      · exact ⟨_, rfl⟩
      next linear =>
        -- A gradient with fewer stops is not looked at any further.
        by_cases several : 2 ≤ ramp.stops.length
        · obtain ⟨value?, written⟩ := (Paint.exists_gradientCss_iff paint.opacity
            (not_not.mp linear) several).mpr (converts ⟨not_not.mp linear, several⟩)
          rw [written]
          cases value? <;> exact ⟨_, rfl⟩
        · rw [Paint.gradientCss, if_pos (by omega)]
          exact ⟨_, rfl⟩
    · exact ⟨_, rfl⟩

/-- A stroke is found unless its paint does not convert. -/
theorem StrokeSpec.exists_ofNode_iff {node : NodeProps α} :
    (∃ spec?, ofNode node = .ok spec?) ↔
      ∀ paint, node.style.strokePaint? = some paint → paint.source.CanStroke →
        node.Converts paint.source := by
  refine ⟨?_, exists_of_converts⟩
  rintro ⟨spec?, known⟩ paint first can
  cases found_ofNode known with
  | blank none => exact absurd can (none paint first)
  | solid same solid written =>
    obtain rfl := Option.some.inj (first.symm.trans same)
    rw [solid]
    exact (Paint.exists_colorCss_iff _).mp ⟨_, written⟩
  | ring same isGradient _ written =>
    obtain rfl := Option.some.inj (first.symm.trans same)
    rw [isGradient] at can ⊢
    exact (Paint.exists_gradientCss_iff _ can.1 can.2).mp ⟨_, written⟩

/-- A stroke is drawn unless its paint does not convert. -/
theorem StrokeCss.exists_ofNode_iff {node : NodeProps α} {shadows : List (Shadow α)} :
    (∃ stroke, ofNode node shadows = .ok stroke) ↔
      ∀ paint, node.style.strokePaint? = some paint → paint.source.CanStroke →
        node.Converts paint.source := by
  rw [← StrokeSpec.exists_ofNode_iff]
  constructor
  · rintro ⟨stroke, drawn⟩
    obtain ⟨spec?, known, -⟩ := Except.bind_eq_ok_iff.mp drawn
    exact ⟨spec?, known⟩
  · rintro ⟨spec?, known⟩
    rw [ofNode, known]
    cases spec? <;> exact ⟨_, rfl⟩

/-! ### Mechanisms -/

/-- What draws a stroke. -/
inductive StrokeMechanism where
  | inline
  | shadow
  | overlay
deriving DecidableEq, Repr

/-- Something is drawn by the mechanism. -/
def StrokeCss.Uses (stroke : StrokeCss) : StrokeMechanism → Prop
  | .inline => stroke.css.isEmpty = false
  | .shadow => stroke.boxShadows ≠ []
  | .overlay => stroke.pseudo ≠ .none

/-- The mechanism draws the stroke of the paint, and nothing else is drawn. -/
inductive DrawnBy (node : NodeProps α) (paint : Paint α) : StrokeMechanism → StrokeCss → Prop
  | inline {color bag} : paint.IsColor color → DrawsLine node color bag.toList →
      DrawnBy node paint .inline ⟨bag, [], none⟩
  | shadow {color} : paint.IsColor color → node.type ≠ "TEXT" →
      node.style.strokeAlign = .inside →
      DrawnBy node paint .shadow
        ⟨.empty, [s!"inset 0 0 0 {px node.style.weights.top} {color}"], none⟩
  | overlay {bag} : OverlayDeclares node paint bag.toList →
      DrawnBy node paint .overlay ⟨.empty, [], some bag⟩

/-- A stroke is drawn by one mechanism only. -/
theorem DrawnBy.uses_iff {node : NodeProps α} {paint : Paint α} {mechanism : StrokeMechanism}
    {stroke : StrokeCss} (drawn : DrawnBy node paint mechanism stroke) (other : StrokeMechanism) :
    stroke.Uses other ↔ other = mechanism := by
  cases drawn with
  | @inline color bag _ line =>
    have inhabited : bag.isEmpty = false := List.isEmpty_eq_false_iff.mpr line.ne_nil
    cases other <;> simp [StrokeCss.Uses, inhabited]
  | shadow => cases other <;> simp [StrokeCss.Uses, Declarations.isEmpty, empty]
  | overlay => cases other <;> simp [StrokeCss.Uses, Declarations.isEmpty, empty]

/-- The background of the pseudo-element is a drawing, whatever is on it. -/
def ShowsDrawing (bag : Css.Declarations) : Prop :=
  ∃ value, bag.get? "background" = some value ∧
    "url(\"data:image/svg+xml,".toList <+: value.toList

theorem not_showsDrawing_of_none {bag : Css.Declarations} (bare : bag.get? "background" = none) :
    ¬ ShowsDrawing bag := by
  rintro ⟨value, declared, -⟩
  cases bare.symm.trans declared

/-- The paint is the first visible one of a stroke that is shown: it can be that of a stroke, some
weight is not zero, and the stroke is neither part of vector content nor a gradient on glyphs. -/
structure NodeProps.ShowsStroke (node : NodeProps α) (paint : Paint α) : Prop where
  first : node.style.strokePaint? = some paint
  can : paint.source.CanStroke
  weighs : ¬ node.style.weights.Weightless
  plain : node.isVector = false
  glyphs : node.type = "TEXT" → ∃ color, paint.source = .solid color

/-- The stroke of a box is more than a line that the box can draw around itself. -/
def NodeProps.NeedsOverlay (node : NodeProps α) (paint : Paint α) (shadows : List (Shadow α)) :
    Prop :=
  node.type ≠ "TEXT" ∧
    ((∃ ramp, paint.source = .gradient ramp) ∨ node.style.dashPattern ≠ [] ∨
      ¬ node.style.weights.Alike ∨ shadows ≠ [])

omit [Scalar α] in
theorem StrokeSpec.numericSize_eq_some_iff {node : NodeProps α} {size : Size α} :
    numericSize node = some size ↔
      node.width = some (.number size.width) ∧ node.height = some (.number size.height) := by
  have number {dimension : Option (Dimension α)} {value : α} :
      dimension.bind Dimension.number? = some value ↔ dimension = some (.number value) := by
    rcases dimension with _ | length | text <;> simp [Dimension.number?]
  obtain ⟨wide, high⟩ := size
  rw [← number, ← number]
  unfold numericSize
  split
  next width height wide high => simp [wide, high]
  next missing =>
    simp only [reduceCtorEq, false_iff]
    exact fun ⟨wide, high⟩ => missing _ _ wide high

omit [Scalar α] in
theorem StrokeSpec.exists_numericSize_iff {node : NodeProps α} :
    (∃ size, numericSize node = some size) ↔
      (∃ width, node.width = some (.number width)) ∧
        ∃ height, node.height = some (.number height) := by
  simp only [numericSize_eq_some_iff]
  constructor
  · rintro ⟨size, wide, high⟩
    exact ⟨⟨_, wide⟩, _, high⟩
  · rintro ⟨⟨width, wide⟩, height, high⟩
    exact ⟨⟨width, height⟩, wide, high⟩

/-- What a drawing of dashes asks of a stroke is what it asks of the node. -/
theorem StrokeSpec.drawsDashes_iff {node : NodeProps α} {paint : Paint α} {color : Color α}
    {text : String} (isSolid : paint.source = .solid color) :
    (StrokeSpec.solid node text).DrawsDashes node ↔ node.DrawsDashes paint := by
  have type : node.type ∈ ["RECTANGLE", "FRAME", "INSTANCE", "COMPONENT", "COMPONENT_SET",
      "ELLIPSE"] ↔ node.type ∈ rectangularTypes ∨ node.type = "ELLIPSE" := by
    simp [rectangularTypes, or_assoc]
  constructor
  · intro dashes
    obtain ⟨width, height⟩ := exists_numericSize_iff.mp dashes.size
    exact ⟨⟨color, isSolid⟩, dashes.dashed, Sides.isUniform_iff.mp dashes.uniform,
      type.mpr dashes.type, width, height⟩
  · intro dashes
    exact ⟨dashes.dashed, Sides.isUniform_iff.mpr dashes.alike, type.mp dashes.type,
      exists_numericSize_iff.mpr ⟨dashes.width, dashes.height⟩⟩

/-! ### Each way of drawing -/

namespace StrokeSpec

variable {spec : StrokeSpec α} {node : NodeProps α} {paint : Paint α} {color value : String}

theorem drawnBy_inline {declarations : List Declaration} (isColor : paint.IsColor color)
    (line : DrawsLine node color declarations) :
    DrawnBy node paint .inline (.inline declarations) := by
  refine .inline isColor ?_
  rw [toList_ofList line.distinct]
  exact line

theorem drawnBy_textStroke (isColor : paint.IsColor color) (text : node.type = "TEXT") :
    DrawnBy node paint .inline (solid node color).textStroke := by
  rw [textStroke]
  simp only [Sides.max_eq]
  by_cases outside : node.style.strokeAlign = .outside
  · rw [if_pos outside]
    exact drawnBy_inline isColor (.behind text outside)
  · rw [if_neg outside]
    exact drawnBy_inline isColor (.glyphs text outside)

/-- An inside stroke of the box is a shadow, and any other is declared. -/
theorem drawnBy_nativeStroke (isColor : paint.IsColor color) (other : node.type ≠ "TEXT") :
    DrawnBy node paint (if node.style.strokeAlign = .inside then .shadow else .inline)
      ((solid node color).nativeStroke color) := by
  rw [nativeStroke]
  dsimp only
  cases align : node.style.strokeAlign with
  | inside => exact .shadow isColor other align
  | center => exact drawnBy_inline isColor (.border other align)
  | outside => exact drawnBy_inline isColor (.outline other align)

theorem showsDrawing_dashPseudo (spec : StrokeSpec α) (color : String) (node : NodeProps α)
    (width height : α) : ShowsDrawing (ofList (spec.dashPseudo color node width height)) := by
  refine ⟨_, spec.get?_background_dashPseudo color node width height, ?_⟩
  unfold svgDataUri
  simp only [toString, String.toList_append, List.append_assoc]
  exact List.prefix_append _ _

theorem not_showsDrawing_borderPseudo (spec : StrokeSpec α) (color : String)
    (node : NodeProps α) : ¬ ShowsDrawing (ofList (spec.borderPseudo color node)) :=
  not_showsDrawing_of_none (get?_background_borderPseudo spec color node)

/-- A linear gradient does not begin as a drawing does. -/
theorem not_showsDrawing_gradientPseudo {ramp : Gradient α} {opacity width height : α}
    (linear : ramp.kind = .linear)
    (written : Paint.gradientCss ramp opacity width height = .ok (some value)) :
    ¬ ShowsDrawing (ofList (spec.gradientPseudo value node)) := by
  rintro ⟨_, declared, drawing⟩
  rw [get?_background_gradientPseudo] at declared
  cases declared
  -- The value is opened down to its first word, which is that of a function.
  cases Paint.gradientCss_cases written with
  | several _ opening _ =>
    cases opening with
    | linear => simp [toString] at drawing
    | radial other => cases linear.symm.trans other
    | angular other => cases linear.symm.trans other
    | diamond other => cases linear.symm.trans other

end StrokeSpec

/-- A stroke that is shown is drawn by one mechanism, the one that the paint, the dashes, the
weights and the shadows ask for. A pseudo-element has a drawing exactly for dashes that are drawn,
and then it shows these. -/
structure NodeProps.DrawsStroke (node : NodeProps α) (paint : Paint α) (shadows : List (Shadow α))
    (stroke : StrokeCss) (mechanism : StrokeMechanism) : Prop where
  drawn : DrawnBy node paint mechanism stroke
  overlay : mechanism = .overlay ↔ node.NeedsOverlay paint shadows
  drawing : (∃ bag ∈ stroke.pseudo, ShowsDrawing bag) ↔ node.DrawsDashes paint

namespace StrokeCss

variable {node : NodeProps α} {paint : Paint α} {shadows : List (Shadow α)} {stroke : StrokeCss}
  {spec : StrokeSpec α}

omit [Scalar α] in
private theorem not_pseudo {stroke : StrokeCss} (none : stroke.pseudo = .none) :
    ¬ ∃ bag ∈ stroke.pseudo, ShowsDrawing bag := by
  rintro ⟨bag, member, -⟩
  rw [none] at member
  cases member

private theorem pseudo_overlay (declarations : List Declaration) :
    (∃ bag ∈ (overlay declarations).pseudo, ShowsDrawing bag) ↔
      ShowsDrawing (ofList declarations) :=
  ⟨fun ⟨_, same, shows⟩ => Option.some.inj same ▸ shows, fun shows => ⟨_, rfl, shows⟩⟩

private theorem drawsStroke_solid {text : String} (shows : node.ShowsStroke paint)
    (isColor : paint.IsColor text)
    (drawn : Draws node (!shadows.isEmpty) (.solid node text) stroke) :
    ∃ mechanism, node.DrawsStroke paint shadows stroke mechanism := by
  have ⟨color, solid, _⟩ := isColor
  have flat : ¬ ∃ ramp, paint.source = .gradient ramp := by simp [solid]
  cases drawn with
  | weightless zero => exact absurd (Sides.isZero_iff.mp zero) shows.weighs
  | hidden _ _ ring => cases ring
  | vector _ _ vector => cases shows.plain.symm.trans vector
  | glyphs _ text _ =>
    refine ⟨.inline, StrokeSpec.drawnBy_textStroke isColor text,
      iff_of_false (by decide) fun needs => needs.1 text,
      iff_of_false (not_pseudo rfl) fun dashes => ?_⟩
    -- A text is neither rectangular nor an ellipse.
    have type := dashes.type
    rw [text] at type
    revert type
    decide
  | box _ other _ boxed =>
    cases boxed with
    | ring ring => cases ring
    | native isSolid uniform bare alone =>
      cases isSolid
      have alone : shadows = [] := by simpa using alone
      refine ⟨_, StrokeSpec.drawnBy_nativeStroke isColor other, iff_of_false ?_ ?_,
        iff_of_false ?_ ?_⟩
      · split <;> decide
      · rintro ⟨-, ring | dashed | uneven | shadowed⟩
        · exact flat ring
        · exact dashed bare
        · exact uneven (Sides.isUniform_iff.mp uniform)
        · exact shadowed alone
      · refine not_pseudo ?_
        rw [StrokeSpec.nativeStroke]
        split <;> rfl
      · exact fun dashes => dashes.dashed bare
    | @dashes _ size isSolid dashes sized =>
      cases isSolid
      have drawn : node.DrawsDashes paint := (StrokeSpec.drawsDashes_iff solid).mp dashes
      obtain ⟨wide, high⟩ := StrokeSpec.numericSize_eq_some_iff.mp sized
      refine ⟨.overlay, .overlay (StrokeSpec.declares_dashPseudo isColor drawn wide high),
        iff_of_true rfl ⟨other, .inr (.inl drawn.dashed)⟩, iff_of_true ?_ drawn⟩
      exact (pseudo_overlay _).mpr (StrokeSpec.showsDrawing_dashPseudo _ _ node _ _)
    | border isSolid undrawn demands =>
      cases isSolid
      have dashes : (StrokeSpec.solid node text).DrawsDashes node ↔ node.DrawsDashes paint :=
        StrokeSpec.drawsDashes_iff solid
      rw [dashes] at undrawn
      -- The demands are those of an overlay, less the gradient that a solid stroke is not.
      refine ⟨.overlay, .overlay (StrokeSpec.declares_borderPseudo isColor undrawn),
        iff_of_true rfl ⟨other, .inr ?_⟩, iff_of_false ?_ undrawn⟩
      · refine demands.imp_right (Or.imp (fun uneven alike => ?_) fun shadowed => ?_)
        · cases uneven.symm.trans (Sides.isUniform_iff.mpr alike)
        · simpa using shadowed
      · exact mt (pseudo_overlay _).mp (StrokeSpec.not_showsDrawing_borderPseudo _ _ node)

private theorem drawsStroke_ring {ramp : Gradient α} {value : String}
    (shows : node.ShowsStroke paint) (isGradient : paint.source = .gradient ramp)
    (written : Paint.gradientCss ramp paint.opacity (node.numericLength .width)
      (node.numericLength .height) = .ok (some value))
    (drawn : Draws node (!shadows.isEmpty) (.ring node value) stroke) :
    ∃ mechanism, node.DrawsStroke paint shadows stroke mechanism := by
  have linear : ramp.kind = .linear := by
    have can := shows.can
    rw [isGradient] at can
    exact can.1
  have other : node.type ≠ "TEXT" := fun text => by
    obtain ⟨color, solid⟩ := shows.glyphs text
    rw [isGradient] at solid
    cases solid
  -- A text has no gradient for its stroke, and of what is drawn for a box only the ring is one.
  cases drawn with
  | weightless zero => exact absurd (Sides.isZero_iff.mp zero) shows.weighs
  | glyphs _ text _ => exact absurd text other
  | hidden _ text _ => exact absurd text other
  | vector _ _ vector => cases shows.plain.symm.trans vector
  | box _ _ _ boxed =>
    cases boxed with
    | native solid => cases solid
    | dashes solid => cases solid
    | border solid => cases solid
    | ring ring =>
      cases ring
      refine ⟨.overlay, .overlay (StrokeSpec.declares_gradientPseudo
          ⟨ramp, isGradient, Paint.gradientCss_cases written⟩),
        iff_of_true rfl ⟨other, .inl ⟨ramp, isGradient⟩⟩, iff_of_false ?_ fun dashes => ?_⟩
      · exact mt (pseudo_overlay _).mp
          (StrokeSpec.not_showsDrawing_gradientPseudo linear written)
      · obtain ⟨color, solid⟩ := dashes.solid
        rw [isGradient] at solid
        cases solid

/-- A stroke that is shown is drawn by one mechanism. -/
theorem drawsStroke_ofNode (shows : node.ShowsStroke paint)
    (drawn : ofNode node shadows = .ok stroke) :
    ∃ mechanism, node.DrawsStroke paint shadows stroke mechanism := by
  rcases ofNode_cases drawn with ⟨known, -⟩ | ⟨spec, known, drawn⟩
  · cases StrokeSpec.found_ofNode known with
    | blank none => exact absurd shows.can (none paint shows.first)
  · cases StrokeSpec.found_ofNode known with
    | solid first solid written =>
      obtain rfl := Option.some.inj (shows.first.symm.trans first)
      exact drawsStroke_solid shows ⟨_, solid, Paint.colorCss_cases written⟩ drawn
    | ring first isGradient _ written =>
      obtain rfl := Option.some.inj (shows.first.symm.trans first)
      exact drawsStroke_ring shows isGradient written drawn

/-- Without a paint for it, or without weights, no stroke is drawn. -/
theorem eq_none_of_ofNode (drawn : ofNode node shadows = .ok stroke)
    (missing : (∀ paint, node.style.strokePaint? = some paint → ¬ paint.source.CanStroke) ∨
      node.style.weights.Weightless) : stroke = none := by
  rcases ofNode_cases drawn with ⟨-, rfl⟩ | ⟨spec, known, drawn⟩
  · rfl
  rcases missing with blank | zero
  · cases StrokeSpec.found_ofNode known with
    | solid first solid => exact absurd (solid ▸ trivial) (blank _ first)
    | ring first _ can => exact absurd can (blank _ first)
  · rw [← (StrokeSpec.style_of_ofNode known).2, ← Sides.isZero_iff] at zero
    cases drawn with
    | weightless => rfl
    | hidden => rfl
    | vector => rfl
    | glyphs weighs => cases weighs.symm.trans zero
    | box weighs => cases weighs.symm.trans zero

/-- A pseudo-element is there only for a stroke that is shown, and declares what that asks for. -/
theorem declares_of_pseudo {bag : Declarations} (drawn : ofNode node shadows = .ok stroke)
    (pseudo : stroke.pseudo = some bag) :
    ∃ paint, node.ShowsStroke paint ∧ OverlayDeclares node paint bag.toList := by
  obtain ⟨spec, known, weighs, other, plain, -⟩ := overlaid_ofNode drawn pseudo
  rw [(StrokeSpec.style_of_ofNode known).2] at weighs
  replace weighs : ¬ node.style.weights.Weightless := by
    rw [← Sides.isZero_iff, weighs]
    decide
  have shown : ∃ paint, node.ShowsStroke paint := by
    cases StrokeSpec.found_ofNode known with
    | solid first solid =>
      exact ⟨_, first, solid ▸ trivial, weighs, plain, fun text => absurd text other⟩
    | ring first _ can => exact ⟨_, first, can, weighs, plain, fun text => absurd text other⟩
  obtain ⟨paint, shows⟩ := shown
  obtain ⟨mechanism, draws⟩ := drawsStroke_ofNode shows drawn
  refine ⟨paint, shows, ?_⟩
  -- Of the mechanisms only one leaves a pseudo-element.
  cases draws.drawn with
  | inline => cases pseudo
  | shadow => cases pseudo
  | overlay declares =>
    cases pseudo
    exact declares

end StrokeCss

end Artboard
