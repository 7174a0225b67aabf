import Artboard.Proofs.Layout.Computation
import Artboard.Proofs.Scene.Walk

/-!
# How compilation fails

A computation fails where its first failing step does. Colours, the angles of
gradients and the addresses of images may not convert; the style and the content
of a box fail in no other way. Its layout fails at a condition that the node or
its parent violates.
-/
namespace Artboard

variable {α : Type}

namespace Compile

variable {β γ : Type}

/-- The computation can end with the fault. -/
def Fails (action : Compile β) (fault : Fault) : Prop :=
  ∃ before after, action.outcome before = (.error fault, after)

/-- A sequence fails at its first part, or at its second with what the first returned. -/
theorem Fails.bind {action : Compile β} {next : β → Compile γ} {fault : Fault}
    (failed : Fails (action >>= next) fault) :
    Fails action fault ∨ ∃ value, Returns action value ∧ Fails (next value) fault := by
  obtain ⟨before, after, run⟩ := failed
  rw [outcome_bind] at run
  cases first : action.outcome before with
  | mk result between =>
    rw [first] at run
    cases result with
    | error cause => cases run; exact .inl ⟨before, _, first⟩
    | ok value => exact .inr ⟨value, ⟨before, between, first⟩, between, after, run⟩

theorem not_fails_pure {value : β} {fault : Fault} : ¬ Fails (pure value) fault := by
  simp [Fails, outcome_pure]

theorem fails_throw_iff {cause fault : Fault} :
    Fails (throw cause : Compile β) fault ↔ cause = fault := by
  simp only [Fails, outcome_throw, Prod.mk.injEq, Except.error.injEq]
  exact ⟨fun ⟨_, _, same, _⟩ => same, fun same => ⟨.empty, .empty, same, rfl⟩⟩

theorem fails_stopAt_iff {cause : Violation} {fault : Fault} :
    Fails (stopAt cause : Compile β) fault ↔ .violation cause = fault :=
  fails_throw_iff

theorem fails_ofExcept_iff {result? : Except Fault β} {fault : Fault} :
    Fails (ofExcept result?) fault ↔ result? = .error fault := by
  cases result? with
  | error cause => simp [ofExcept, fails_throw_iff]
  | ok value => simpa [ofExcept] using not_fails_pure

/-- A traversal fails at one of its items. -/
theorem Fails.mapM {visit : β → Compile γ} {items : List β} {fault : Fault}
    (failed : Fails (items.mapM visit) fault) : ∃ item ∈ items, Fails (visit item) fault := by
  induction items with
  | nil => exact (not_fails_pure failed).elim
  | cons item rest ih =>
    rw [List.mapM_cons] at failed
    rcases failed.bind with first | ⟨_, -, failed⟩
    · exact ⟨item, .head _, first⟩
    rcases failed.bind with others | ⟨_, -, joined⟩
    · obtain ⟨other, member, failed⟩ := ih others
      exact ⟨other, .tail _ member, failed⟩
    · exact (not_fails_pure joined).elim

end Compile

/-! ### Conversions -/

/-- The fault comes from a number that becomes no integer or from the template of an address. -/
def Fault.isConversion : Fault → Bool
  | notANumber | infiniteNumber | template _ => true
  | _ => false

/-- The computation fails only where a conversion does. -/
def OnlyConverts {β : Type} (action : Except Fault β) : Prop :=
  ∀ fault, action = .error fault → fault.isConversion = true

namespace OnlyConverts

variable {β γ : Type}

theorem ok (value : β) : OnlyConverts (.ok value) := nofun

theorem pure (value : β) : OnlyConverts (Pure.pure value) := nofun

theorem bind {action : Except Fault β} {next : β → Except Fault γ} (first : OnlyConverts action)
    (second : ∀ value, OnlyConverts (next value)) : OnlyConverts (action >>= next) := by
  cases action with
  | error fault => exact fun _ failed => first _ (by cases failed; rfl)
  | ok value => exact second value

theorem mapM {visit : β → Except Fault γ} {items : List β}
    (each : ∀ item ∈ items, OnlyConverts (visit item)) : OnlyConverts (items.mapM visit) := by
  induction items with
  | nil => exact pure []
  | cons item rest ih =>
    obtain ⟨first, each⟩ := List.forall_mem_cons.mp each
    rw [List.mapM_cons]
    exact first.bind fun _ => (ih each).bind fun _ => pure _

end OnlyConverts

section Style

variable [Scalar α]

theorem onlyConverts_nearestInt (value : α) : OnlyConverts (nearestInt value) := by
  intro fault failed
  unfold nearestInt at failed
  split at failed <;> cases failed <;> rfl

theorem onlyConverts_colorCss (color : Color α) (opacity : α) :
    OnlyConverts (Paint.colorCss color opacity) :=
  (onlyConverts_nearestInt _).bind fun _ => (onlyConverts_nearestInt _).bind fun _ =>
    (onlyConverts_nearestInt _).bind fun _ => .pure _

theorem onlyConverts_imageUrl (template imageId : String) :
    OnlyConverts (Paint.imageUrl template imageId) := by
  intro fault failed
  unfold Paint.imageUrl at failed
  split at failed
  · cases failed
  · split at failed <;> cases failed
    rfl

private theorem onlyConverts_linearAngle (gradient : Gradient α) (width height : α) :
    OnlyConverts (Paint.linearAngle gradient width height) := by
  unfold Paint.linearAngle
  split
  · exact (onlyConverts_nearestInt _).bind fun _ => .pure _
  · exact onlyConverts_nearestInt _
  · exact .ok _

theorem onlyConverts_gradientCss (gradient : Gradient α) (opacity width height : α) :
    OnlyConverts (Paint.gradientCss gradient opacity width height) := by
  unfold Paint.gradientCss
  have stops : OnlyConverts (gradient.stops.mapM (Paint.stopCss opacity)) :=
    .mapM fun _ _ => (onlyConverts_colorCss _ _).bind fun _ => .pure _
  split
  · exact .pure _
  refine stops.bind fun _ => ?_
  split
  · exact (onlyConverts_linearAngle _ _ _).bind fun _ => .pure _
  all_goals exact .pure _

private theorem onlyConverts_layer? (template : String) (width height : α)
    (paint : Artboard.Paint α) : OnlyConverts (Paint.layer? template width height paint) := by
  unfold Paint.layer?
  dsimp only
  split
  · split
    · exact .pure _
    · split
      · exact .pure _
      · exact (onlyConverts_imageUrl _ _).bind fun _ => .pure _
  · refine (onlyConverts_gradientCss _ _ _ _).bind fun value => ?_
    cases value <;> exact .pure _
  · exact (onlyConverts_colorCss _ _).bind fun _ => .pure _

private theorem onlyConverts_backgroundCss (template : String) (node : NodeProps α) :
    OnlyConverts (Paint.backgroundCss template node) := by
  have layers : OnlyConverts (Paint.layers template node) :=
    (OnlyConverts.mapM fun _ _ => onlyConverts_layer? _ _ _ _).bind fun _ => .pure _
  unfold Paint.backgroundCss
  split
  · exact .pure _
  refine layers.bind fun found => ?_
  split <;> exact .pure _

theorem onlyConverts_effectSet (style : Style α) : OnlyConverts style.effectSet := by
  refine (OnlyConverts.mapM fun effect _ => ?_).bind fun _ => .pure _
  unfold shadowOf
  split
  · exact (onlyConverts_colorCss _ _).bind fun _ => .pure _
  · exact (OnlyConverts.ok _).bind fun _ => .pure _

private theorem onlyConverts_stroke (node : NodeProps α) (shadows : List (Shadow α)) :
    OnlyConverts (StrokeCss.ofNode node shadows) := by
  have spec : OnlyConverts (StrokeSpec.ofNode node) := by
    unfold StrokeSpec.ofNode
    dsimp only
    split
    · exact .pure _
    · split
      · exact (onlyConverts_colorCss _ _).bind fun _ => .pure _
      · split
        · exact .pure _
        · refine (onlyConverts_gradientCss _ _ _ _).bind fun value => ?_
          cases value <;> exact .pure _
      · exact .pure _
  refine spec.bind fun spec => ?_
  cases spec <;> exact .pure _

/-- The style of a box fails only at a conversion. -/
theorem onlyConverts_boxStyle (template : String) (node : NodeProps α) (kind : NodeKind)
    (isHolder : Bool) (inherited : List (Shadow α)) :
    OnlyConverts (BoxStyle.ofNode template node kind isHolder inherited) := by
  have background : OnlyConverts (boxBackground template node kind) := by
    unfold boxBackground
    split
    · exact .ok _
    · exact onlyConverts_backgroundCss _ _
  exact background.bind fun _ => (onlyConverts_effectSet _).bind fun _ =>
    (onlyConverts_stroke _ _).bind fun _ => .pure _

private theorem onlyConverts_textMarkup (text : TextData α) (wrap : Bool) :
    OnlyConverts (Typography.textMarkup text wrap) := by
  have color (fills : List (Paint α)) : OnlyConverts (Typography.textColor fills) := by
    unfold Typography.textColor
    dsimp only
    split
    · exact onlyConverts_colorCss _ _
    · exact .ok _
  have segment (segment : TextSegment α) :
      OnlyConverts (Typography.segmentMarkup text.characters.toList segment) :=
    ((color _).bind fun _ => .pure _).bind fun _ => .pure _
  unfold Typography.textMarkup
  dsimp only
  split
  · exact (OnlyConverts.ok _).bind fun _ => .pure _
  · exact (OnlyConverts.mapM fun _ _ => segment _).bind fun _ => (OnlyConverts.ok _).bind fun _ =>
      .pure _

/-- The content of a box fails only at a conversion. -/
theorem onlyConverts_contentOf (node : NodeProps α) (kind : NodeKind) (textUsesFlex : Bool) :
    OnlyConverts (contentOf node kind textUsesFlex) := by
  unfold contentOf
  split
  · exact (onlyConverts_textMarkup _ _).bind fun _ => .pure _
  all_goals exact .pure _

/-- The declarations of a mask fail only at a conversion. -/
theorem onlyConverts_maskBoxCss (template : String) (mask : NodeProps α)
    (css : Css.Declarations) : OnlyConverts (maskBoxCss template mask css) := by
  have image : OnlyConverts (Paint.maskCss template mask) := by
    unfold Paint.maskCss
    split
    · exact .pure _
    · exact (onlyConverts_imageUrl _ _).bind fun _ => .pure _
  exact image.bind fun _ => .pure _

private theorem onlyConverts_passedShadows (node : NodeProps α) (inherited : List (Shadow α)) :
    OnlyConverts (passedShadows node inherited) := by
  unfold passedShadows
  split
  · exact (onlyConverts_effectSet _).bind fun _ => .pure _
  · exact .pure _

end Style

/-! ### Layouts and containers -/

section Layout

variable [Scalar α]

/-- A length is a finite number, or that of the render bounds. -/
def NodeProps.IsMeasured (node : NodeProps α) (axis : Axis) : Prop :=
  (∃ value, node.dimension axis = some (.number value) ∧ Scalar.isFinite value = true) ∨
    ∃ bounds, node.renderBounds = some bounds

theorem finiteLength?_eq_some_iff {node : NodeProps α} {axis : Axis} {value : α} :
    node.finiteLength? axis = some value ↔
      node.dimension axis = some (.number value) ∧ Scalar.isFinite value = true := by
  unfold NodeProps.finiteLength?
  rcases node.dimension axis with _ | number | text
  · simp
  · simp only [Option.bind_some, Dimension.number?, Option.ite_none_right_eq_some,
      Option.some.injEq, Dimension.number.injEq]
    exact ⟨fun ⟨finite, same⟩ => ⟨same, same ▸ finite⟩, fun ⟨same, finite⟩ => ⟨same ▸ finite, same⟩⟩
  · simp [Dimension.number?]

/-- A node has a length exactly on the axes on which it is measured. -/
theorem length_eq_ok_iff {node : NodeProps α} {axis : Axis} :
    (∃ value, node.length axis = .ok value) ↔ node.IsMeasured axis := by
  unfold NodeProps.length NodeProps.IsMeasured
  split
  next value known => exact iff_of_true ⟨_, rfl⟩ (.inl ⟨value, finiteLength?_eq_some_iff.mp known⟩)
  next bounds _ known => exact iff_of_true ⟨_, rfl⟩ (.inr ⟨bounds, known⟩)
  next unknown none =>
    simp only [reduceCtorEq, exists_false, false_iff, none, or_false, not_exists]
    intro value known
    simp [finiteLength?_eq_some_iff.mpr known] at unknown

theorem length_error {node : NodeProps α} {axis : Axis} {fault : Fault}
    (failed : node.length axis = .error fault) :
    ¬ node.IsMeasured axis ∧
      fault = .violation (.invalidSize axis (node.declaredSize axis) node.id) := by
  refine ⟨fun measured => ?_, ?_⟩
  · obtain ⟨value, known⟩ := length_eq_ok_iff.mpr measured
    simp [known] at failed
  · unfold NodeProps.length at failed
    split at failed <;> cases failed
    rfl

theorem size_error {node : NodeProps α} {fault : Fault} (failed : node.size = .error fault) :
    ∃ axis, ¬ node.IsMeasured axis ∧
      fault = .violation (.invalidSize axis (node.declaredSize axis) node.id) := by
  unfold NodeProps.size at failed
  cases width : node.length .width with
  | error cause =>
    rw [width] at failed
    cases failed
    exact ⟨.width, length_error width⟩
  | ok value =>
    rw [width] at failed
    cases height : node.length .height with
    | error cause =>
      rw [height] at failed
      cases failed
      exact ⟨.height, length_error height⟩
    | ok value =>
      rw [height] at failed
      cases failed

theorem measured_of_size {node : NodeProps α} {size : Size α} (known : node.size = .ok size)
    (axis : Axis) : node.IsMeasured axis := by
  obtain ⟨width, first, known⟩ := Except.bind_eq_ok_iff.mp known
  obtain ⟨height, second, -⟩ := Except.bind_eq_ok_iff.mp known
  cases axis with
  | width => exact length_eq_ok_iff.mp ⟨_, first⟩
  | height => exact length_eq_ok_iff.mp ⟨_, second⟩

/-- What keeps a node from being placed in the frame of its parent. -/
inductive NodeProps.Refuses (node : NodeProps α) (parent : Affine α) : Violation → Prop
  | transform : node.absoluteTransform = none → node.Refuses parent (.missingTransform node.id)
  | parent : parent.invert = none → node.Refuses parent (.singularParent node.id)
  | vectorBounds : NodeKind.ofNode node = .svg → node.renderBounds = none →
      node.Refuses parent (.missingVectorBounds node.id)
  | size {axis} : NodeKind.ofNode node ≠ .svg → ¬ node.IsMeasured axis →
      node.Refuses parent (.invalidSize axis (node.declaredSize axis) node.id)

private theorem place_error {node : NodeProps α} {parent inverse map : Affine α} {fault : Fault}
    (failed : Layout.place node inverse map = .error fault) :
    ∃ cause, fault = .violation cause ∧ node.Refuses parent cause := by
  unfold Layout.place at failed
  split at failed
  next vector =>
    unfold Place.ofVector at failed
    split at failed
    next none => cases failed; exact ⟨_, rfl, .vectorBounds vector none⟩
    next => split at failed <;> cases failed
  next other =>
    unfold Place.ofBox at failed
    cases known : node.size with
    | error cause =>
      rw [known] at failed
      cases failed
      obtain ⟨axis, unmeasured, rfl⟩ := size_error known
      exact ⟨_, rfl, .size other unmeasured⟩
    | ok size => rw [known] at failed; cases failed

private theorem measured_of_place {node : NodeProps α} {inverse map : Affine α} {place : Place α}
    (placed : Layout.place node inverse map = .ok place) :
    (NodeKind.ofNode node = .svg → ∃ bounds, node.renderBounds = some bounds) ∧
      (NodeKind.ofNode node ≠ .svg → ∀ axis, node.IsMeasured axis) := by
  unfold Layout.place at placed
  split at placed
  next vector =>
    refine ⟨fun _ => ?_, fun other => (other vector).elim⟩
    unfold Place.ofVector at placed
    split at placed
    · cases placed
    next bounds known => exact ⟨bounds, known⟩
  next other =>
    obtain ⟨size, known, -⟩ := Except.bind_eq_ok_iff.mp placed
    exact ⟨fun vector => (other vector).elim, fun _ => measured_of_size known⟩

/-- A layout fails only where something keeps its node from being placed. -/
theorem compute_error {node : NodeProps α} {flows : Bool} {parent : Affine α}
    {flow : Option Flow} {fault : Fault}
    (failed : Layout.compute node flows parent flow = .error fault) :
    ∃ cause, fault = .violation cause ∧ node.Refuses parent cause := by
  unfold Layout.compute at failed
  dsimp only at failed
  split at failed
  next none => cases failed; exact ⟨_, rfl, .transform none⟩
  next singular => cases failed; exact ⟨_, rfl, .parent singular⟩
  next absolute inverse known inverted =>
    cases placed : Layout.place node inverse (inverse.compose absolute) with
    | error cause => rw [placed] at failed; cases failed; exact place_error placed
    | ok place =>
      rw [placed] at failed
      split at failed
      · cases failed
      -- A flow asks for the size once more, also of vector content, which has its bounds by then.
      cases sized : node.size with
      | ok size => rw [sized] at failed; cases failed
      | error cause =>
        rw [sized] at failed
        cases failed
        obtain ⟨axis, unmeasured, rfl⟩ := size_error sized
        have other : NodeKind.ofNode node ≠ .svg := fun vector =>
          unmeasured (.inr ((measured_of_place placed).1 vector))
        exact ⟨_, rfl, .size other unmeasured⟩

/-- Nothing keeps a node with a layout from being placed. -/
theorem not_refuses_of_compute {node : NodeProps α} {flows : Bool} {parent : Affine α}
    {flow : Option Flow} {layout : Layout α}
    (placed : Layout.compute node flows parent flow = .ok layout) (cause : Violation) :
    ¬ node.Refuses parent cause := by
  obtain ⟨_, _, _, known, inverted, found, -⟩ := Layout.compute_eq_ok_iff.mp placed
  obtain ⟨vector, box⟩ := measured_of_place found
  intro refuses
  cases refuses with
  | transform none => simp [known] at none
  | parent singular => simp [inverted] at singular
  | vectorBounds isVector none => simpa [none] using vector isVector
  | size other unmeasured => exact unmeasured (box other _)

/-- A container with a transform is entered unless that is singular or a shadow that it passes on
does not convert. -/
theorem container_error {node : NodeProps α} {inherited : List (Shadow α)} {fault : Fault}
    {frame : Affine α} (known : node.absoluteTransform = some frame)
    (failed : ContainerState.ofNode node inherited = .error fault) :
    frame.invert = none ∧ fault = .violation (.singularContainer node.id) ∨
      fault.isConversion = true := by
  unfold ContainerState.ofNode at failed
  simp only [known] at failed
  split at failed
  next singular => cases failed; exact .inl ⟨singular, rfl⟩
  next inverse inverted =>
    exact .inr (((onlyConverts_passedShadows node inherited).bind fun _ => .pure _) fault failed)

open Compile

/-- The box of a visible node fails where it refuses its place or at a conversion. -/
theorem fails_compileBox {template : String} {node : NodeProps α} {flows : Bool}
    {place : Surroundings α} {fault : Fault} (visible : node.visible = true)
    (failed : Fails (compileBox template node flows place) fault) :
    (∃ cause, fault = .violation cause ∧ node.Refuses place.frame cause) ∨
      fault.isConversion = true := by
  unfold compileBox at failed
  simp only [visible, Bool.not_true, Bool.false_eq_true, if_false] at failed
  rcases failed.bind with layout | ⟨_, -, failed⟩
  · exact .inl (compute_error (fails_ofExcept_iff.mp layout))
  right
  rcases failed.bind with style | ⟨style, -, failed⟩
  · exact onlyConverts_boxStyle _ _ _ _ _ fault (fails_ofExcept_iff.mp style)
  -- Neither adding the rule of a pseudo-element nor joining the parts fails.
  have content : Fails
      (Compile.ofExcept (contentOf node (NodeKind.ofNode node) style.textUsesFlex)) fault := by
    split at failed
    · rcases failed.bind with ⟨_, _, ⟨⟩⟩ | ⟨_, -, failed⟩
      rcases failed.bind with content | ⟨_, -, joined⟩
      · exact content
      · exact (not_fails_pure joined).elim
    · rcases failed.bind with content | ⟨_, -, joined⟩
      · exact content
      · exact (not_fails_pure joined).elim
  exact onlyConverts_contentOf _ _ _ fault (fails_ofExcept_iff.mp content)

end Layout

end Artboard
