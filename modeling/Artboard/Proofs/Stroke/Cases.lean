import Artboard.Proofs.Paint.Cases
import Artboard.Stroke.Css

/-!
# Ways of drawing a stroke

The stroke of a node is found in one paint, and it is drawn in one of a few ways.
Each way is stated once, with all that leads to it. Later proofs cite these cases
and never unfold a stroke.
-/
namespace Artboard

variable {α : Type} [Scalar α]

/-! ### The paint of a stroke -/

/-- The first visible stroke paint. -/
def Style.strokePaint? (style : Style α) : Option (Paint α) := style.strokes.find? (·.visible)

def Style.weights (style : Style α) : Sides α := style.strokeWeights.getD StrokeSpec.noWeights

/-- The paint can be that of a stroke: a solid colour, or a linear gradient with two stops. -/
def PaintSource.CanStroke : PaintSource α → Prop
  | .solid _ => True
  | .gradient ramp => ramp.kind = .linear ∧ 2 ≤ ramp.stops.length
  | .image _ => False

/-- A stroke has its paint from the first visible stroke paint, and the rest from the style. -/
inductive StrokeSpec.Found (node : NodeProps α) : Option (StrokeSpec α) → Prop
  | blank :
      (∀ paint, node.style.strokePaint? = some paint → ¬ paint.source.CanStroke) →
      Found node none
  | solid {paint color text} :
      node.style.strokePaint? = some paint → paint.source = .solid color →
      Paint.colorCss color paint.opacity = .ok text →
      Found node (some ⟨.solid text, node.style.strokeAlign, node.style.weights,
        node.style.dashPattern⟩)
  | ring {paint gradient value} :
      node.style.strokePaint? = some paint → paint.source = .gradient gradient →
      paint.source.CanStroke →
      Paint.gradientCss gradient paint.opacity (node.numericLength .width)
        (node.numericLength .height) = .ok (some value) →
      Found node (some ⟨.gradient value, node.style.strokeAlign, node.style.weights, []⟩)

/-- A gradient has a value exactly where it has two stops. -/
theorem Paint.isSome_gradientCss {gradient : Gradient α} {opacity width height : α}
    {value? : Option String} (written : gradientCss gradient opacity width height = .ok value?) :
    value?.isSome = true ↔ 2 ≤ gradient.stops.length := by
  cases gradientCss_cases written with
  | few few => simpa using few
  | several enough => exact iff_of_true rfl enough

theorem StrokeSpec.found_ofNode {node : NodeProps α} {spec? : Option (StrokeSpec α)}
    (known : ofNode node = .ok spec?) : Found node spec? := by
  unfold ofNode at known
  dsimp only at known
  split at known
  next none =>
    cases known
    exact .blank fun paint shown => by
      rw [Style.strokePaint?, none] at shown
      cases shown
  next paint shown =>
    have blank (cannot : ¬ paint.source.CanStroke) : Found node .none :=
      .blank fun other same => Option.some.inj (shown.symm.trans same) ▸ cannot
    split at known
    next color solid =>
      obtain ⟨text, written, known⟩ := Except.bind_eq_ok_iff.mp known
      cases known
      exact .solid shown solid written
    next gradient isGradient =>
      split at known
      next otherKind =>
        cases known
        exact blank (isGradient ▸ fun can => otherKind can.1)
      next linear =>
        obtain ⟨value?, written, known⟩ := Except.bind_eq_ok_iff.mp known
        -- Whether there is a value says how many stops there are.
        have stops := Paint.isSome_gradientCss written
        cases value? with
        | some value =>
          cases known
          exact .ring shown isGradient
            (isGradient ▸ ⟨not_not.mp linear, stops.mp rfl⟩) written
        | none =>
          cases known
          exact blank (isGradient ▸ fun can => absurd (stops.mpr can.2) (by simp))
    next image isImage =>
      cases known
      exact blank (isImage ▸ nofun)

theorem StrokeSpec.style_of_ofNode {node : NodeProps α} {spec : StrokeSpec α}
    (known : ofNode node = .ok (some spec)) :
    spec.align = node.style.strokeAlign ∧ spec.weights = node.style.weights := by
  cases found_ofNode known with
  | solid => exact ⟨rfl, rfl⟩
  | ring => exact ⟨rfl, rfl⟩

/-! ### Ways of drawing -/

/-- The stroke has dashes that a drawing of the box can show exactly. -/
structure StrokeSpec.DrawsDashes (spec : StrokeSpec α) (node : NodeProps α) : Prop where
  dashed : spec.dashPattern ≠ []
  uniform : spec.weights.isUniform = true
  type : node.type ∈ rectangularTypes ∨ node.type = "ELLIPSE"
  size : ∃ size, StrokeSpec.numericSize node = some size

namespace StrokeCss

/-- How the box of a node draws a stroke. -/
inductive BoxDraws (node : NodeProps α) (hasShadows : Bool) (spec : StrokeSpec α) :
    StrokeCss → Prop
  | ring {value} : spec.paint = .gradient value →
      BoxDraws node hasShadows spec (.overlay (spec.gradientPseudo value node))
  | native {color} : spec.paint = .solid color → spec.weights.isUniform = true →
      spec.dashPattern = [] → hasShadows = false →
      BoxDraws node hasShadows spec (spec.nativeStroke color)
  | dashes {color size} : spec.paint = .solid color → spec.DrawsDashes node →
      StrokeSpec.numericSize node = some size →
      BoxDraws node hasShadows spec (.overlay (spec.dashPseudo color node size.width size.height))
  | border {color} : spec.paint = .solid color → ¬ spec.DrawsDashes node →
      (spec.dashPattern ≠ [] ∨ spec.weights.isUniform = false ∨ hasShadows = true) →
      BoxDraws node hasShadows spec (.overlay (spec.borderPseudo color node))

/-- How a stroke is drawn on its node. A text strokes its glyphs, and vector content already
contains its strokes. -/
inductive Draws (node : NodeProps α) (hasShadows : Bool) (spec : StrokeSpec α) :
    StrokeCss → Prop
  | weightless : spec.weights.isZero = true → Draws node hasShadows spec .none
  | glyphs {color} : spec.weights.isZero = false → node.type = "TEXT" →
      spec.paint = .solid color → Draws node hasShadows spec spec.textStroke
  | hidden {value} : spec.weights.isZero = false → node.type = "TEXT" →
      spec.paint = .gradient value → Draws node hasShadows spec .none
  | vector : spec.weights.isZero = false → node.type ≠ "TEXT" → node.isVector = true →
      Draws node hasShadows spec .none
  | box {stroke} : spec.weights.isZero = false → node.type ≠ "TEXT" → node.isVector = false →
      BoxDraws node hasShadows spec stroke → Draws node hasShadows spec stroke

private theorem boxDraws_solidOverlay {node : NodeProps α} {hasShadows : Bool}
    {spec : StrokeSpec α} {color : String} (solid : spec.paint = .solid color)
    (demands : spec.dashPattern ≠ [] ∨ spec.weights.isUniform = false ∨ hasShadows = true) :
    BoxDraws node hasShadows spec (spec.solidOverlay color node) := by
  unfold StrokeSpec.solidOverlay
  dsimp only
  split
  next size drawn sized =>
    simp only [Bool.and_eq_true, Bool.not_eq_true', List.isEmpty_eq_false_iff, Bool.or_eq_true,
      List.contains_iff_mem, beq_iff_eq] at drawn
    exact .dashes solid ⟨drawn.1.1, drawn.1.2, drawn.2, size, sized⟩ sized
  next other =>
    refine .border solid (fun dashes => ?_) demands
    obtain ⟨size, sized⟩ := dashes.size
    refine other size ?_ sized
    simpa [dashes.dashed, dashes.uniform] using dashes.type

private theorem boxDraws_boxStroke (node : NodeProps α) (hasShadows : Bool)
    (spec : StrokeSpec α) : BoxDraws node hasShadows spec (spec.boxStroke node hasShadows) := by
  unfold StrokeSpec.boxStroke
  split
  next value ring => exact .ring ring
  next color solid =>
    split
    next native =>
      simp only [Bool.and_eq_true, List.isEmpty_iff, Bool.not_eq_true'] at native
      exact .native solid native.1.1 native.1.2 native.2
    next other =>
      refine boxDraws_solidOverlay solid ?_
      -- What is not native lacks one of the three conditions; the first missing one is named.
      simp only [Bool.and_eq_true, List.isEmpty_iff, Bool.not_eq_true'] at other
      by_cases dashed : spec.dashPattern = []
      · by_cases uniform : spec.weights.isUniform = true
        · exact .inr (.inr (by simpa using fun none => other ⟨⟨uniform, dashed⟩, none⟩))
        · exact .inr (.inl (by simpa using uniform))
      · exact .inl dashed

theorem draws_ofSpec (node : NodeProps α) (hasShadows : Bool) (spec : StrokeSpec α) :
    Draws node hasShadows spec (ofSpec node hasShadows spec) := by
  unfold ofSpec
  split
  next zero => exact .weightless zero
  next weighs =>
    have weighs : spec.weights.isZero = false := by simpa using weighs
    split
    next text =>
      cases paint : spec.paint with
      | solid color => exact .glyphs weighs text paint
      | gradient value =>
        rw [StrokeSpec.textStroke, paint]
        exact .hidden weighs text paint
    next other =>
      split
      next vector => exact .vector weighs other vector
      next plain =>
        exact .box weighs other (by simpa using plain) (boxDraws_boxStroke node hasShadows spec)

/-- A node without a stroke draws none, and every other draws the one that it has. -/
theorem ofNode_cases {node : NodeProps α} {shadows : List (Shadow α)} {stroke : StrokeCss}
    (drawn : ofNode node shadows = .ok stroke) :
    (StrokeSpec.ofNode node = .ok .none ∧ stroke = .none) ∨
      ∃ spec, StrokeSpec.ofNode node = .ok (some spec) ∧
        Draws node (!shadows.isEmpty) spec stroke := by
  obtain ⟨spec?, known, drawn⟩ := Except.bind_eq_ok_iff.mp drawn
  cases spec? with
  | none =>
    cases drawn
    exact .inl ⟨known, rfl⟩
  | some spec =>
    cases drawn
    exact .inr ⟨spec, known, draws_ofSpec node _ spec⟩

/-- What a pseudo-element declares: a gradient seen through a ring, a drawing of dashes or a
border. -/
inductive Overlaid (node : NodeProps α) (spec : StrokeSpec α) : Css.Declarations → Prop
  | ring {value} : spec.paint = .gradient value →
      Overlaid node spec (.ofList (spec.gradientPseudo value node))
  | dashes {color width height} : spec.paint = .solid color → spec.DrawsDashes node →
      Overlaid node spec (.ofList (spec.dashPseudo color node width height))
  | border {color} : spec.paint = .solid color → ¬ spec.DrawsDashes node →
      Overlaid node spec (.ofList (spec.borderPseudo color node))

private theorem overlaid_of_boxDraws {node : NodeProps α} {hasShadows : Bool}
    {spec : StrokeSpec α} {stroke : StrokeCss} (drawn : BoxDraws node hasShadows spec stroke)
    {bag : Css.Declarations} (pseudo : stroke.pseudo = some bag) : Overlaid node spec bag := by
  cases drawn with
  | ring ring =>
    cases pseudo
    exact .ring ring
  | dashes solid dashes =>
    cases pseudo
    exact .dashes solid dashes
  | border solid undrawn =>
    cases pseudo
    exact .border solid undrawn
  | native =>
    rw [StrokeSpec.nativeStroke] at pseudo
    split at pseudo <;> cases pseudo

/-- A pseudo-element is drawn for a stroke with weights, whose node is neither a text nor vector
content. -/
theorem overlaid_ofNode {node : NodeProps α} {shadows : List (Shadow α)} {stroke : StrokeCss}
    (drawn : ofNode node shadows = .ok stroke) {bag : Css.Declarations}
    (pseudo : stroke.pseudo = some bag) :
    ∃ spec, StrokeSpec.ofNode node = .ok (some spec) ∧ spec.weights.isZero = false ∧
      node.type ≠ "TEXT" ∧ node.isVector = false ∧ Overlaid node spec bag := by
  rcases ofNode_cases drawn with ⟨-, rfl⟩ | ⟨spec, known, drawn⟩
  · cases pseudo
  refine ⟨spec, known, ?_⟩
  cases drawn with
  | weightless => cases pseudo
  | hidden => cases pseudo
  | vector => cases pseudo
  | glyphs _ _ solid =>
    rw [StrokeSpec.textStroke, solid] at pseudo
    cases pseudo
  | box weighs other plain boxed =>
    exact ⟨weighs, other, plain, overlaid_of_boxDraws boxed pseudo⟩

end StrokeCss

end Artboard
