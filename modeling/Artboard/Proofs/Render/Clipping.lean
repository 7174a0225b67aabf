import Artboard.Proofs.Scene.Layouts
import Artboard.Proofs.Scene.Shadows
import Artboard.Proofs.Scene.Strokes
import Artboard.Proofs.Stroke.Overlay
import Artboard.Render.Box

/-!
# Strokes and clipping

A pseudo-element that lies around its box is seen where the box does not clip. The
boxes that clip are those of frames that clip their content and of ellipses that
declare no radius.
-/
namespace Artboard

open Css Css.Declarations

variable {α : Type} [Scalar α]

/-- The box of a node clips what reaches out of it. -/
inductive NodeProps.Clips (node : NodeProps α) : Prop
  | content : NodeKind.ofNode node = .frame → node.clipsContent = true → Clips node
  | ellipse : NodeKind.ofNode node ≠ .svg → node.type = "ELLIPSE" →
      (Paint.radiusCss node.style.radii).contains "border-radius" = false → Clips node

/-! ### What declares the overflow -/

/-- The overflow of a layout is declared last, and nowhere else. -/
theorem Layout.get?_overflow_containerCss (layout : Layout α) :
    layout.containerCss.get? "overflow" =
      (ofList (givenDeclaration "overflow" layout.overflow)).get? "overflow" := by
  -- Each group of declarations before the overflow has names of its own.
  refine get?_ofList_append fun member => ?_
  obtain ⟨declaration, member, named⟩ := List.mem_map.mp member
  simp only [List.mem_append] at member
  rcases member with (flex | padding) | sizing
  · split at flex
    case isFalse => cases flex
    simp only [flexDeclarations, List.mem_append, List.mem_singleton] at flex
    rcases flex with
      ((((((rfl | direction) | justify) | align) | wrap) | gap) | rowGap) | columnGap
    · exact absurd named (by decide)
    · exact absurd ((mem_givenDeclaration direction).symm.trans named) (by decide)
    · exact absurd ((mem_givenDeclaration justify).symm.trans named) (by decide)
    · exact absurd ((mem_givenDeclaration align).symm.trans named) (by decide)
    · exact absurd ((mem_givenDeclaration wrap).symm.trans named) (by decide)
    · obtain ⟨_, rfl⟩ := mem_pxDeclaration gap
      simp at named
    · obtain ⟨_, rfl⟩ := mem_pxDeclaration rowGap
      simp at named
    · obtain ⟨_, rfl⟩ := mem_pxDeclaration columnGap
      simp at named
  · split at padding
    · obtain rfl := List.mem_singleton.mp padding
      simp at named
    · cases padding
  · exact absurd ((mem_givenDeclaration sizing).symm.trans named) (by decide)

/-- A frame clips its content where its node says so. -/
private theorem get?_overflow_layout {node : NodeProps α} {flows : Bool} {parent : Affine α}
    {flow : Option Flow} {layout : Layout α}
    (computed : Layout.compute node flows parent flow = .ok layout)
    (isFrame : NodeKind.ofNode node = .frame) :
    layout.containerCss.get? "overflow" =
      if node.clipsContent = true then some "hidden" else none := by
  obtain ⟨start, -, same⟩ := Layout.compute_cases computed
  rw [Layout.filled, if_pos isFrame] at same
  have overflow : layout.overflow = if node.clipsContent then some "hidden" else none := by
    rw [same]
    rfl
  rw [Layout.get?_overflow_containerCss, overflow]
  cases node.clipsContent <;> rfl

/-- Of the corners of a box only the default of an ellipse clips. -/
private theorem get?_overflow_radius (kind : NodeKind) (node : NodeProps α) :
    (radiusDeclarations kind node).get? "overflow" =
      if kind ≠ .svg ∧ node.type = "ELLIPSE" ∧
        (Paint.radiusCss node.style.radii).contains "border-radius" = false
      then some "hidden" else none := by
  rw [radiusDeclarations]
  split
  · rfl
  · exact (within_radius _).get? (by decide)

/-- The kind of a box with a pseudo-element. -/
private theorem kind_of_pseudo {entry : Entry α} {bag : Declarations}
    (strokes : entry.pseudo? = some bag) :
    NodeKind.ofNode entry.node.props =
      if entry.node.props.isContainerType then .frame else .shape := by
  obtain ⟨-, _, _, drawn, pseudo⟩ := entry.pseudo_cases strokes
  obtain ⟨_, -, -, other, plain, -⟩ := StrokeCss.overlaid_ofNode drawn pseudo
  rw [NodeKind.ofNode, plain]
  simp [other]

/-- No container is an ellipse, so that the content alone decides whether its box clips. -/
private theorem clips_iff_of_container {node : NodeProps α}
    (container : node.isContainerType = true) (isFrame : NodeKind.ofNode node = .frame) :
    node.type ≠ "ELLIPSE" ∧ (node.Clips ↔ node.clipsContent = true) := by
  have angular : node.type ≠ "ELLIPSE" := by
    intro ellipse
    rw [NodeProps.isContainerType, ellipse] at container
    exact absurd container (by decide)
  refine ⟨angular, fun clips => ?_, .content isFrame⟩
  cases clips with
  | content _ content => exact content
  | ellipse _ ellipse => exact absurd ellipse angular

/-- The corners alone decide whether the box of a shape clips. -/
private theorem clips_iff_of_shape {node : NodeProps α} (isShape : NodeKind.ofNode node = .shape) :
    node.Clips ↔ NodeKind.ofNode node ≠ .svg ∧ node.type = "ELLIPSE" ∧
      (Paint.radiusCss node.style.radii).contains "border-radius" = false := by
  refine ⟨fun clips => ?_, fun ⟨other, ellipse, bare⟩ => .ellipse other ellipse bare⟩
  cases clips with
  | content isFrame => cases isShape.symm.trans isFrame
  | ellipse other ellipse bare => exact ⟨other, ellipse, bare⟩

/-- A conditional declaration is there exactly where its condition holds. -/
private theorem declared_cases {condition : Prop} [Decidable condition] {clips : Prop}
    (decides : clips ↔ condition) {value? : Option String}
    (declared : value? = if condition then some "hidden" else none) :
    value? = some "hidden" ∧ clips ∨ value? = none ∧ ¬ clips := by
  by_cases holds : condition
  · exact .inl ⟨declared.trans (if_pos holds), decides.mpr holds⟩
  · exact .inr ⟨declared.trans (if_neg holds), mt decides.mp holds⟩

/-- Where a box with a pseudo-element clips it declares so, and elsewhere it declares nothing. -/
theorem get?_overflow_visualCss {template : String} {root : Affine α} {entry : Entry α}
    {box : SceneBox α} {bag : Declarations} (compiled : CompiledAs template root entry box)
    (strokes : entry.pseudo? = some bag) :
    (Render.visualCss box).get? "overflow" = some "hidden" ∧ entry.node.props.Clips ∨
      (Render.visualCss box).get? "overflow" = none ∧ ¬ entry.node.props.Clips := by
  have kind := kind_of_pseudo strokes
  cases compiled with
  | group grouped => cases (entry.pseudo_cases strokes).1.symm.trans grouped
  | @node place _ _ placed returned =>
    obtain ⟨-, layout, style, content, computed, styled, -, rfl⟩ := compileBox_cases returned
    have own : (nodeBox entry.node.props place layout style content).declarations.get?
        "overflow" = (radiusDeclarations (NodeKind.ofNode entry.node.props)
          entry.node.props).get? "overflow" := by
      -- The stack adds no overflow, and of the style only the corners declare one.
      rw [nodeBox, get?_update, placed.itemCss.stacked.get? (by decide), Option.or_none]
      exact get?_edge_of_style styled (.inr ⟨rfl, by rw [kind]; split <;> decide⟩)
    rw [get?_overflow_radius] at own
    by_cases container : entry.node.props.isContainerType = true
    · have isFrame : NodeKind.ofNode entry.node.props = .frame := kind.trans (if_pos container)
      obtain ⟨angular, decides⟩ := clips_iff_of_container container isFrame
      refine declared_cases decides ?_
      rw [if_neg fun round => angular round.2.1] at own
      have shown : Render.visualCss (nodeBox entry.node.props place layout style content) =
          layout.containerCss.update
            (nodeBox entry.node.props place layout style content).declarations :=
        if_pos isFrame
      rw [shown, get?_update, own, Option.none_or, get?_overflow_layout computed isFrame]
    · have isShape : NodeKind.ofNode entry.node.props = .shape := kind.trans (if_neg container)
      refine declared_cases (clips_iff_of_shape isShape) ?_
      have shown : Render.visualCss (nodeBox entry.node.props place layout style content) =
          (nodeBox entry.node.props place layout style content).declarations :=
        if_neg fun isFrame : NodeKind.ofNode entry.node.props = .frame => by
          cases isShape.symm.trans isFrame
      rw [shown, own]

namespace Render

/-- How a box and the pseudo-element of its stroke lie. The insets are negative outside the box, and
what lies there is cut off exactly where the box clips. -/
structure HoldsOverlay (entry : Entry α) (box : SceneBox α) (bag : Declarations) : Prop where
  insets : ∀ declaration ∈ insetDeclarations entry.node.props.style.strokeAlign
    entry.node.props.style.weights, bag.get? declaration.1 = some declaration.2
  hidden : (visualCss box).get? "overflow" = some "hidden" ↔ entry.node.props.Clips
  visible : ¬ entry.node.props.Clips → (visualCss box).get? "overflow" = none

/-- Of the boxes whose strokes are drawn by pseudo-elements, those of frames that clip their content
and of ellipses without a radius clip. -/
theorem overlays_are_clipped_iff {template : String} {provider : FontProvider}
    {composition : Composition α} {scene : CompiledScene α}
    (compiled : compileComposition template provider composition = .ok scene) :
    List.Forall₂ (fun entry box => ∀ bag, entry.pseudo? = some bag → HoldsOverlay entry box bag)
      (EntryTree.preorders composition.walk) (SceneNode.preorders scene.nodes) := by
  refine (forall₂_preorders (follows_walk compiled)).imp fun entry box compiled bag strokes => ?_
  refine ⟨?_, ?_, fun open_ => ?_⟩
  · obtain ⟨-, _, _, drawn, pseudo⟩ := entry.pseudo_cases strokes
    obtain ⟨spec, known, -, -, -, overlaid⟩ := StrokeCss.overlaid_ofNode drawn pseudo
    obtain ⟨align, weights⟩ := StrokeSpec.style_of_ofNode known
    rw [← align, ← weights]
    exact overlaid.insets
  · rcases get?_overflow_visualCss compiled strokes with ⟨hidden, clips⟩ | ⟨none, open_⟩
    · exact iff_of_true hidden clips
    · exact iff_of_false (by simp [none]) open_
  · rcases get?_overflow_visualCss compiled strokes with ⟨-, clips⟩ | ⟨none, -⟩
    · exact absurd clips open_
    · exact none

/-- A node with black dashes around it. -/
def stitchedProps (id type : String) : NodeProps Rat :=
  let props := plainProps id type .identity
  { props with
    style := { props.style with
      strokes := [blackStroke], strokeWeights := some ⟨2, 2, 2, 2⟩, strokeAlign := .outside
      dashPattern := [4] } }

def dashedEntry (id type : String) : Entry Rat where
  node := .mk (stitchedProps id type) []
  isGroup := false
  ancestors := []
  cover := none

def dashedSketch : Composition Rat where
  name := "dashed"
  absOrigin := some ⟨0, 0⟩
  bounds := none
  children := [.mk (stitchedProps "dot" "ELLIPSE") [], .mk (stitchedProps "card" "RECTANGLE") []]

theorem walk_dashedSketch : EntryTree.preorders dashedSketch.walk =
    [dashedEntry "dot" "ELLIPSE", dashedEntry "card" "RECTANGLE"] := rfl

theorem dashedSketch_holds_overlays :
    ∃ scene, compileComposition "" (fun _ => none) dashedSketch = .ok scene ∧
      (dashedEntry "card" "RECTANGLE").pseudo?.isSome = true ∧
      List.Forall₂ (fun entry box => ∀ bag, entry.pseudo? = some bag → HoldsOverlay entry box bag)
        [dashedEntry "dot" "ELLIPSE", dashedEntry "card" "RECTANGLE"]
        (SceneNode.preorders scene.nodes) := by
  obtain ⟨scene, compiled, -⟩ := Except.exists_of_any (fun _ => true)
    (show (compileComposition "" (fun _ => none) dashedSketch).toOption.any _ = true by
      decide +kernel)
  exact ⟨scene, compiled, by decide +kernel,
    walk_dashedSketch ▸ overlays_are_clipped_iff compiled⟩

/-- The dashes of an ellipse lie outside the box, which clips them. -/
theorem ellipse_clips_dashes :
    ∃ scene bag, compileComposition "" (fun _ => none) dashedSketch = .ok scene ∧
      (dashedEntry "dot" "ELLIPSE").pseudo? = some bag ∧ bag.get? "inset" = some "-2px" ∧
      (SceneNode.preorders scene.nodes).map (fun box =>
        (box.id, (visualCss box).get? "overflow")) = [("dot", some "hidden"), ("card", none)] := by
  obtain ⟨scene, compiled, shown⟩ := Except.exists_of_any
    (fun scene => decide ((SceneNode.preorders scene.nodes).map (fun box =>
      (box.id, (visualCss box).get? "overflow")) = [("dot", some "hidden"), ("card", none)]))
    (show (compileComposition "" (fun _ => none) dashedSketch).toOption.any _ = true by
      decide +kernel)
  have drawn : (dashedEntry "dot" "ELLIPSE").pseudo?.any
      (fun bag => bag.get? "inset" == some "-2px") = true := by decide +kernel
  obtain ⟨bag, strokes, outside⟩ := (Option.any_eq_true _ _).mp drawn
  exact ⟨scene, bag, compiled, strokes, beq_iff_eq.mp outside, of_decide_eq_true shown⟩

end Render

end Artboard
