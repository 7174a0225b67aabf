import Artboard.Proofs.Number.Rational
import Artboard.Proofs.Scene.Shadows
import Artboard.Proofs.Stroke.Mechanism
import Mathlib.Algebra.Order.Ring.Rat

/-!
# Corners of a stroke

A border or a ring that lies around a box has the corners of the box, each grown by
the weights of the two sides that meet in it. The corners are those that the node
declares: a border does not follow the round box that an ellipse has without them.
-/
namespace Artboard

open Css Css.Declarations

variable {α : Type} [Scalar α]

/-! ### Growing radii -/

/-- How radii compare with zero, and how they grow. All of this holds of floating-point numbers
too. -/
structure Scalar.GrowsRadii (α : Type) [Scalar α] : Prop where
  zero : Scalar.isZero (0.0 : α) = true
  nonzero : ∀ radius : α, 0.0 < radius → Scalar.isZero radius = false
  positive : ∀ radius : α, 0.0 ≤ radius → Scalar.isZero radius = false → 0.0 < radius
  same : ∀ radius : α, 0.0 < radius → (radius == radius) = true
  grown : ∀ radius first second factor : α, 0.0 < radius → 0.0 ≤ first → 0.0 ≤ second →
    factor = 0.25 ∨ factor = 0.5 → Scalar.isZero (radius + (first + second) * factor) = false

private theorem isZero_rat (value : Rat) : Scalar.isZero value = false ↔ value ≠ 0 := by
  have same : Scalar.isZero value = (value == (0.0 : Rat)) := rfl
  rw [same, zero_rat, beq_eq_false_iff_ne]

theorem Scalar.growsRadii_rat : Scalar.GrowsRadii Rat := by
  refine ⟨by decide +kernel, fun radius positive => ?_, fun radius nonneg nonzero => ?_,
    fun radius _ => beq_self_eq_true radius,
    fun radius first second factor positive one other half => ?_⟩
  · rw [isZero_rat]
    replace positive : (0.0 : Rat) < radius := positive
    rw [zero_rat] at positive
    exact positive.ne'
  · replace nonneg : (0.0 : Rat) ≤ radius := nonneg
    rw [zero_rat] at nonneg
    change (0.0 : Rat) < radius
    rw [zero_rat]
    exact lt_of_le_of_ne nonneg ((isZero_rat radius).mp nonzero).symm
  · replace positive : (0.0 : Rat) < radius := positive
    replace one : (0.0 : Rat) ≤ first := one
    replace other : (0.0 : Rat) ≤ second := other
    rw [zero_rat] at positive one other
    have scaled : (0 : Rat) ≤ factor := by
      rcases half with rfl | rfl <;> decide +kernel
    rw [isZero_rat]
    exact (add_pos_of_pos_of_nonneg positive (mul_nonneg (add_nonneg one other) scaled)).ne'

/-- No declared radius is negative. -/
structure Radii.Nonneg (radii : Radii α) : Prop where
  uniform : ∀ radius, radii.uniform = some radius → 0.0 ≤ radius
  corners : ∀ corners, radii.corners = some corners → ∀ radius ∈ corners.toList, 0.0 ≤ radius

def Sides.Nonneg (sides : Sides α) : Prop := ∀ weight ∈ sides.toList, 0.0 ≤ weight

/-- A positive uniform radius is that of all corners, and any other leaves the declared ones. -/
private theorem toCorners_cases (radii : Radii α) :
    let wins := radii.uniform.bind fun radius => if 0.0 < radius then some radius else none
    (∃ radius, wins = some radius ∧ 0.0 < radius ∧ radii.toCorners = .all radius) ∨
      wins = none ∧ radii.toCorners = radii.corners.getD (.all 0.0) := by
  cases known : radii.uniform with
  | none => exact .inr ⟨rfl, by rw [Radii.toCorners, known]⟩
  | some radius =>
    simp only [Radii.toCorners, known, Option.bind_some]
    by_cases positive : 0.0 < radius
    · exact .inl ⟨radius, if_pos positive, positive, if_pos positive⟩
    · exact .inr ⟨if_neg positive, if_neg positive⟩

private theorem isZero_all (radius : α) : (Corners.all radius).isZero = Scalar.isZero radius := by
  simp [Corners.isZero, Corners.toList, Corners.all]

section Grown

variable (laws : Scalar.GrowsRadii α)
include laws

/-- A corner of non-negative radii that is not square is rounded. -/
theorem Radii.positive_of_nonneg {radii : Radii α} (nonneg : radii.Nonneg) :
    ∀ radius ∈ radii.toCorners.toList, Scalar.isZero radius = false → 0.0 < radius := by
  intro radius member nonzero
  obtain ⟨uniform, -, positive, same⟩ | ⟨-, same⟩ := toCorners_cases radii
  · rw [same] at member
    have equal : radius = uniform := by simpa [Corners.toList, Corners.all] using member
    exact equal ▸ positive
  · rw [same] at member
    cases known : radii.corners with
    | none =>
      rw [known] at member
      have square : radius = 0.0 := by simpa [Corners.toList, Corners.all] using member
      exact absurd (square ▸ laws.zero) (by simp [nonzero])
    | some corners =>
      rw [known] at member
      exact laws.positive radius (nonneg.corners corners known radius member) nonzero

/-- A square corner does not grow. -/
private theorem isZero_grownCorner_of_isZero {factor radius first second : α}
    (zero : Scalar.isZero radius = true) :
    Scalar.isZero (grownCorner factor radius first second) = true := by
  rw [grownCorner, if_neg fun positive => by simp [laws.nonzero radius positive] at zero]
  exact laws.zero

private theorem isZero_grownCorner {radius first second factor : α}
    (positive : Scalar.isZero radius = false → 0.0 < radius) (one : 0.0 ≤ first)
    (other : 0.0 ≤ second) (half : factor = 0.25 ∨ factor = 0.5) :
    Scalar.isZero (grownCorner factor radius first second) = Scalar.isZero radius := by
  cases zero : Scalar.isZero radius with
  | true => exact isZero_grownCorner_of_isZero laws zero
  | false =>
    rw [grownCorner, if_pos (positive zero)]
    exact laws.grown radius first second factor (positive zero) one other half

/-- Non-negative weights neither round square corners nor square round ones. -/
theorem isZero_grownCorners {align : StrokeAlign} {weights : Sides α} {corners : Corners α}
    (nonneg : weights.Nonneg)
    (positive : ∀ radius ∈ corners.toList, Scalar.isZero radius = false → 0.0 < radius) :
    (grownCorners align weights corners).isZero = corners.isZero := by
  simp only [Sides.Nonneg, Sides.toList, Corners.toList, List.forall_mem_cons] at nonneg positive
  obtain ⟨top, right, bottom, left, -⟩ := nonneg
  obtain ⟨topLeft, topRight, bottomRight, bottomLeft, -⟩ := positive
  rw [grownCorners]
  split
  · rfl
  · have half : (if align = .center then (0.25 : α) else 0.5) = 0.25 ∨
        (if align = .center then (0.25 : α) else 0.5) = 0.5 := by
      split <;> simp
    simp [Corners.isZero, Corners.toList, isZero_grownCorner laws topLeft top left half,
      isZero_grownCorner laws topRight top right half,
      isZero_grownCorner laws bottomRight bottom right half,
      isZero_grownCorner laws bottomLeft bottom left half]

/-- Square corners stay square, whatever the weights are. -/
theorem isZero_grownCorners_of_isZero {align : StrokeAlign} {weights : Sides α}
    {corners : Corners α} (square : corners.isZero = true) :
    (grownCorners align weights corners).isZero = true := by
  rw [grownCorners]
  split
  · exact square
  · simp only [Corners.isZero, Corners.toList, List.all_cons, List.all_nil, Bool.and_true,
      Bool.and_eq_true] at square ⊢
    obtain ⟨topLeft, topRight, bottomRight, bottomLeft⟩ := square
    exact ⟨isZero_grownCorner_of_isZero laws topLeft, isZero_grownCorner_of_isZero laws topRight,
      isZero_grownCorner_of_isZero laws bottomRight, isZero_grownCorner_of_isZero laws bottomLeft⟩

end Grown

/-! ### Radii as texts -/

/-- The text is the radius of the corners: one length for all, or one for each. -/
def ShowsCorners (corners : Corners α) (text : String) : Prop :=
  text = Paint.cornersCss corners ∨ corners.isUniform = true ∧ text = Css.px corners.topLeft

/-- Radii declare a radius exactly where some corner is not square, and it shows the corners. -/
theorem radiusCss_cases (laws : Scalar.GrowsRadii α) (radii : Radii α) :
    (radii.toCorners.isZero = true ∧ Paint.radiusCss (some radii) = .empty) ∨
      radii.toCorners.isZero = false ∧ ∃ text, ShowsCorners radii.toCorners text ∧
        Paint.radiusCss (some radii) = .ofList [("border-radius", text)] := by
  unfold Paint.radiusCss
  obtain ⟨radius, wins, positive, same⟩ | ⟨loses, same⟩ := toCorners_cases radii
  · -- One length stands for all corners, so that they have to be seen as equal.
    have uniform : (Corners.all radius).isUniform = true := by
      simp [Corners.isUniform, Corners.all, laws.same radius positive]
    simp only [wins, same, isZero_all]
    exact .inr ⟨laws.nonzero radius positive, _, .inr ⟨uniform, rfl⟩, rfl⟩
  · simp only [loses, same]
    cases radii.corners with
    | none => exact .inl ⟨(isZero_all 0.0).trans laws.zero, rfl⟩
    | some corners =>
      simp only [Option.getD_some]
      split
      next zero => exact .inl ⟨zero, rfl⟩
      next round => exact .inr ⟨by simpa using round, _, .inl rfl, rfl⟩

/-- The radius of a pseudo-element shows the corners that have grown, unless they are square. -/
theorem grownRadius_cases (radii : Radii α) (align : StrokeAlign) (weights : Sides α) :
    ((grownCorners align weights radii.toCorners).isZero = true ∧
        grownRadius (some radii) align weights = none) ∨
      (grownCorners align weights radii.toCorners).isZero = false ∧
        ∃ text, ShowsCorners (grownCorners align weights radii.toCorners) text ∧
          grownRadius (some radii) align weights = some text := by
  rw [grownRadius]
  split
  next square => exact .inl ⟨square, rfl⟩
  next round =>
    refine .inr ⟨by simpa using round, ?_⟩
    split
    next uniform => exact ⟨_, .inr ⟨uniform, rfl⟩, rfl⟩
    next => exact ⟨_, .inl rfl, rfl⟩

/-! ### Pseudo-elements -/

/-- The corners that the node declares, each grown by its stroke. -/
def NodeProps.grownCorners? (node : NodeProps α) : Option (Corners α) :=
  node.style.radii.map fun radii =>
    grownCorners node.style.strokeAlign node.style.weights radii.toCorners

/-- A radius of the pseudo-element fits that of the box: it is inherited, or both show the corners
that the node declares, as they are and grown. -/
inductive FollowsCorners (node : NodeProps α) (host : String) : String → Prop
  | inherited : FollowsCorners node host "inherit"
  | grown {radii value} : node.style.radii = some radii → ShowsCorners radii.toCorners host →
      ShowsCorners (grownCorners node.style.strokeAlign node.style.weights radii.toCorners) value →
      FollowsCorners node host value

/-- Which corners a border or a ring has on a box with a radius. A ring always declares a radius, a
border does where the grown corners are not all square. For non-negative weights these are the
boxes whose radius comes from the radii of the node. -/
structure FollowsBox (node : NodeProps α) (host : String) (bag : Declarations) : Prop where
  follows : ∀ value, bag.get? "border-radius" = some value → FollowsCorners node host value
  ring : (∃ paint ramp, node.style.strokePaint? = some paint ∧ paint.source = .gradient ramp) →
    (bag.get? "border-radius").isSome = true
  border : (∃ paint color, node.style.strokePaint? = some paint ∧ paint.source = .solid color) →
    ((bag.get? "border-radius").isSome = true ↔
      ∃ corners, node.grownCorners? = some corners ∧ corners.isZero = false)
  declared : node.style.weights.Nonneg →
    ((∃ corners, node.grownCorners? = some corners ∧ corners.isZero = false) ↔
      (Paint.radiusCss node.style.radii).contains "border-radius" = true)

/-- A radius of the box that fits grown corners is that of the declared ones. -/
private theorem shows_host (laws : Scalar.GrowsRadii α) {node : NodeProps α} {kind : NodeKind}
    {radii : Radii α} {host : String} (known : node.style.radii = some radii)
    (rounded : (radiusDeclarations kind node).get? "border-radius" = some host)
    (round : (grownCorners node.style.strokeAlign node.style.weights radii.toCorners).isZero =
      false) : ShowsCorners radii.toCorners host := by
  rcases radiusCss_cases laws radii with ⟨square, -⟩ | ⟨-, text, shows, declared⟩
  · cases round.symm.trans (isZero_grownCorners_of_isZero laws square)
  · have single : (Paint.radiusCss node.style.radii).get? "border-radius" = some text := by
      rw [known, declared]
      rfl
    -- A declared radius leaves no room for the default of an ellipse.
    have own : radiusDeclarations kind node = Paint.radiusCss node.style.radii := by
      rw [radiusDeclarations]
      exact if_neg fun bare => by simp [contains, single] at bare
    rw [own, single] at rounded
    cases rounded
    exact shows

namespace NodeProps

variable (node : NodeProps α)

/-- The radius for the grown corners of a node. -/
def grownRadius? : Option String :=
  grownRadius node.style.radii node.style.strokeAlign node.style.weights

theorem isSome_grownRadius? :
    node.grownRadius?.isSome = true ↔
      ∃ corners, node.grownCorners? = some corners ∧ corners.isZero = false := by
  rw [grownRadius?, grownCorners?]
  cases node.style.radii with
  | none => simp [grownRadius]
  | some radii =>
    rcases grownRadius_cases radii node.style.strokeAlign node.style.weights with
      ⟨square, none⟩ | ⟨round, text, -, same⟩
    · simp [square, none]
    · simp [round, same]

variable {node}

theorem follows_of_grownRadius? (laws : Scalar.GrowsRadii α) {kind : NodeKind} {host : String}
    (rounded : (radiusDeclarations kind node).get? "border-radius" = some host) {value : String}
    (declared : node.grownRadius? = some value) : FollowsCorners node host value := by
  rw [grownRadius?] at declared
  cases known : node.style.radii with
  | none => simp [known, grownRadius] at declared
  | some radii =>
    rw [known] at declared
    rcases grownRadius_cases radii node.style.strokeAlign node.style.weights with
      ⟨-, none⟩ | ⟨round, text, shows, same⟩
    · simp [none] at declared
    · cases same.symm.trans declared
      exact .grown known (shows_host laws known rounded round) shows

/-- Non-negative radii round a corner of a box exactly where they round one that has grown. -/
theorem exists_grownCorners?_iff (laws : Scalar.GrowsRadii α)
    (nonneg : ∀ radii, node.style.radii = some radii → radii.Nonneg)
    (weights : node.style.weights.Nonneg) :
    (∃ corners, node.grownCorners? = some corners ∧ corners.isZero = false) ↔
      (Paint.radiusCss node.style.radii).contains "border-radius" = true := by
  rw [grownCorners?]
  cases known : node.style.radii with
  | none => simp [Paint.radiusCss, contains, get?, empty]
  | some radii =>
    have same : (grownCorners node.style.strokeAlign node.style.weights radii.toCorners).isZero =
        radii.toCorners.isZero :=
      isZero_grownCorners laws weights (Radii.positive_of_nonneg laws (nonneg radii known))
    rcases radiusCss_cases laws radii with ⟨square, bare⟩ | ⟨round, text, -, declared⟩
    · simp [same, square, bare, contains, get?, empty]
    · rw [declared]
      simp [same, round, contains_ofList, names]

end NodeProps

/-- What a border and a ring declare as their radius. -/
private theorem radius_of_overlay {node : NodeProps α} {shadows : List (Shadow α)}
    {stroke : StrokeCss} {bag : Declarations} (drawn : StrokeCss.ofNode node shadows = .ok stroke)
    (pseudo : stroke.pseudo = some bag) (plain : ¬ ShowsDrawing bag) :
    ∃ paint, node.style.strokePaint? = some paint ∧
      ((∃ color, paint.source = .solid color) ∧
          bag.get? "border-radius" = node.grownRadius? ∨
        (∃ ramp, paint.source = .gradient ramp) ∧
          bag.get? "border-radius" = some (node.grownRadius?.getD "inherit")) := by
  obtain ⟨spec, known, -, -, -, overlaid⟩ := StrokeCss.overlaid_ofNode drawn pseudo
  cases StrokeSpec.found_ofNode known with
  | solid first solid =>
    refine ⟨_, first, .inl ⟨⟨_, solid⟩, ?_⟩⟩
    cases overlaid with
    | ring ring => cases ring
    | dashes => exact absurd (StrokeSpec.showsDrawing_dashPseudo _ _ node _ _) plain
    | border => exact StrokeSpec.get?_radius_borderPseudo _ _ node
  | ring first isGradient =>
    refine ⟨_, first, .inr ⟨⟨_, isGradient⟩, ?_⟩⟩
    cases overlaid with
    | ring => exact StrokeSpec.get?_radius_gradientPseudo _ _ node
    | dashes solid => cases solid
    | border solid => cases solid

/-- A border or a ring around a box with a radius has the corners that its node declares, grown by
the stroke. -/
theorem overlay_follows_box (laws : Scalar.GrowsRadii α) {template : String} {node : NodeProps α}
    {kind : NodeKind} {isHolder : Bool} {inherited : List (Shadow α)} {style : BoxStyle}
    {host : String} {bag : Declarations}
    (styled : BoxStyle.ofNode template node kind isHolder inherited = .ok style)
    (nonneg : ∀ radii, node.style.radii = some radii → radii.Nonneg)
    (rounded : style.css.get? "border-radius" = some host) (pseudo : style.pseudo = some bag)
    (plain : ¬ ShowsDrawing bag) : FollowsBox node host bag := by
  -- No other part of the style declares a radius, so that it is that of the corners.
  rw [get?_edge_of_style styled (.inl rfl)] at rounded
  obtain ⟨_, _, stroke, -, -, drawn, rfl⟩ := BoxStyle.ofNode_cases styled
  obtain ⟨paint, first, ⟨⟨color, solid⟩, radius⟩ | ⟨⟨ramp, isGradient⟩, radius⟩⟩ :=
    radius_of_overlay drawn pseudo plain
  · refine ⟨fun value declared => ?_, ?_, fun _ => ?_,
      NodeProps.exists_grownCorners?_iff laws nonneg⟩
    · exact NodeProps.follows_of_grownRadius? laws rounded (radius.symm.trans declared)
    · rintro ⟨other, ramp, same, isGradient⟩
      obtain rfl := Option.some.inj (first.symm.trans same)
      cases solid.symm.trans isGradient
    · rw [radius, node.isSome_grownRadius?]
  · refine ⟨fun value declared => ?_, fun _ => ?_, ?_,
      NodeProps.exists_grownCorners?_iff laws nonneg⟩
    · rw [radius] at declared
      cases grown : node.grownRadius? with
      | none =>
        rw [grown] at declared
        cases declared
        exact .inherited
      | some text =>
        rw [grown] at declared
        cases declared
        exact NodeProps.follows_of_grownRadius? laws rounded grown
    · rw [radius]
      rfl
    · rintro ⟨other, color, same, solid⟩
      obtain rfl := Option.some.inj (first.symm.trans same)
      cases solid.symm.trans isGradient

/-- A node with a black stroke around it that is wider at its sides. -/
def edgedProps (id type : String) (radii : Option (Radii Rat)) : NodeProps Rat :=
  let props := plainProps id type .identity
  { props with
    style := { props.style with
      strokes := [blackStroke], strokeWeights := some ⟨1, 2, 1, 2⟩, strokeAlign := .outside
      radii } }

def cardProps : NodeProps Rat := edgedProps "card" "RECTANGLE" (some ⟨none, some ⟨4, 0, 6, 0⟩⟩)

theorem card_border_follows :
    ∃ style bag, BoxStyle.ofNode "" cardProps .shape false [] = .ok style ∧
      style.css.get? "border-radius" = some "4px 0px 6px 0px" ∧ style.pseudo = some bag ∧
      ¬ ShowsDrawing bag ∧ bag.get? "border-radius" = some "5.5px 0px 7.5px 0px" ∧
      FollowsBox cardProps "4px 0px 6px 0px" bag := by
  obtain ⟨style, styled, drawn⟩ := Except.exists_of_any
    (fun style => style.css.get? "border-radius" == some "4px 0px 6px 0px" &&
      style.pseudo.any fun bag => bag.get? "background" == none &&
        bag.get? "border-radius" == some "5.5px 0px 7.5px 0px")
    (show (BoxStyle.ofNode "" cardProps .shape false []).toOption.any _ = true by decide +kernel)
  rw [Bool.and_eq_true, beq_iff_eq, Option.any_eq_true] at drawn
  obtain ⟨rounded, bag, pseudo, drawn⟩ := drawn
  rw [Bool.and_eq_true, beq_iff_eq, beq_iff_eq] at drawn
  have plain := not_showsDrawing_of_none drawn.1
  refine ⟨style, bag, styled, rounded, pseudo, plain, drawn.2,
    overlay_follows_box Scalar.growsRadii_rat styled ?_ rounded pseudo plain⟩
  rintro _ ⟨⟩
  exact ⟨nofun, fun corners same => by cases same; decide +kernel⟩

/-- The border of an ellipse without radii has square corners on a round box. -/
theorem ellipse_border_is_square :
    ∃ style bag, BoxStyle.ofNode "" (edgedProps "dot" "ELLIPSE" none) .shape false [] = .ok style ∧
      style.css.get? "border-radius" = some "50%" ∧ style.pseudo = some bag ∧
      ¬ ShowsDrawing bag ∧ bag.get? "border-width" = some "1px 2px 1px 2px" ∧
      bag.get? "border-radius" = none := by
  obtain ⟨style, styled, drawn⟩ := Except.exists_of_any
    (fun style => style.css.get? "border-radius" == some "50%" &&
      style.pseudo.any fun bag => bag.get? "background" == none &&
        (bag.get? "border-width" == some "1px 2px 1px 2px" && bag.get? "border-radius" == none))
    (show (BoxStyle.ofNode "" (edgedProps "dot" "ELLIPSE" none) .shape false []).toOption.any _ =
      true by decide +kernel)
  rw [Bool.and_eq_true, beq_iff_eq, Option.any_eq_true] at drawn
  obtain ⟨rounded, bag, pseudo, drawn⟩ := drawn
  rw [Bool.and_eq_true, Bool.and_eq_true, beq_iff_eq, beq_iff_eq, beq_iff_eq] at drawn
  exact ⟨style, bag, styled, rounded, pseudo, not_showsDrawing_of_none drawn.1, drawn.2⟩

end Artboard
