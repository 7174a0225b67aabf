import Artboard.Proofs.Render.Binding
import Artboard.Proofs.Stroke.Mechanism

/-!
# Strokes are drawn once

A stroke that a node shows is drawn by one mechanism. Where that is a
pseudo-element, the rule of it is registered when the box of the node is compiled,
and in the content the element of the box carries the id that the rule asks for.
-/
namespace Artboard

open Markup

variable {α : Type} [Scalar α]

/-- The stroke of a node beside some shadows is drawn unless its paint does not convert, and then
once: by one mechanism where the node shows it, and not at all without a paint or weights. -/
structure NodeProps.DrawsOnce (node : NodeProps α) (shadows : List (Shadow α)) : Prop where
  total : (∃ stroke, StrokeCss.ofNode node shadows = .ok stroke) ↔
    ∀ paint, node.style.strokePaint? = some paint → paint.source.CanStroke →
      node.Converts paint.source
  once : ∀ stroke paint, StrokeCss.ofNode node shadows = .ok stroke → node.ShowsStroke paint →
    ∃ mechanism, node.DrawsStroke paint shadows stroke mechanism ∧
      ∀ other, stroke.Uses other ↔ other = mechanism
  blank : ∀ stroke, StrokeCss.ofNode node shadows = .ok stroke →
    ((∀ paint, node.style.strokePaint? = some paint → ¬ paint.source.CanStroke) ∨
      node.style.weights.Weightless) → stroke = .none

theorem NodeProps.drawsOnce (node : NodeProps α) (shadows : List (Shadow α)) :
    node.DrawsOnce shadows := by
  refine ⟨StrokeCss.exists_ofNode_iff, fun stroke paint drawn shows => ?_,
    fun stroke drawn missing => StrokeCss.eq_none_of_ofNode drawn missing⟩
  obtain ⟨mechanism, draws⟩ := StrokeCss.drawsStroke_ofNode shows drawn
  exact ⟨mechanism, draws, draws.drawn.uses_iff⟩

/-- A stroke that needs a pseudo-element has a rule under the id of its node, the one of the last
such stroke with the id. -/
theorem exists_rule {template : String} {provider : FontProvider} {composition : Composition α}
    {scene : CompiledScene α} {entry : Entry α} {bag : Css.Declarations}
    (compiled : compileComposition template provider composition = .ok scene)
    (member : entry ∈ EntryTree.preorders composition.walk) (strokes : entry.pseudo? = some bag) :
    ∃ last, (strokesOf entry.node.props.id (EntryTree.preorders composition.walk)).getLast? =
        some last ∧
      last.isEmpty = false ∧
      (pseudoSelector entry.node.props.id, last) ∈ scene.rules.toList := by
  have listed : bag ∈ strokesOf entry.node.props.id (EntryTree.preorders composition.walk) :=
    List.mem_filterMap.mpr ⟨entry, List.mem_filter.mpr ⟨member, by simp⟩, strokes⟩
  obtain ⟨last, same⟩ := Option.isSome_iff_exists.mp
    (List.getLast?_isSome.mpr (List.ne_nil_of_mem listed))
  refine ⟨last, same, ?_, ?_⟩
  · obtain ⟨other, -, pseudo⟩ := List.mem_filterMap.mp (List.mem_of_getLast? same)
    exact other.isEmpty_pseudo pseudo
  · rw [rules_of_compiled compiled]
    exact ((mem_rules_iff _).2 _ _).mpr same

namespace Render

/-- The pseudo-element of an entry declares a stroke that its node shows. The last one with the id
of the node is registered under it, and one of the heads is that of the box of the entry, with the
id. -/
structure BindsOverlay (template : String) (composition : Composition α) (scene : CompiledScene α)
    (settings : Settings) (entry : Entry α) (bag : Css.Declarations) (heads : List Head) :
    Prop where
  inhabited : bag.isEmpty = false
  shown : ∃ paint, entry.node.props.ShowsStroke paint ∧
    OverlayDeclares entry.node.props paint bag.toList
  registered : ∃ last,
    (strokesOf entry.node.props.id (EntryTree.preorders composition.walk)).getLast? = some last ∧
      last.isEmpty = false ∧ (pseudoSelector entry.node.props.id, last) ∈ scene.rules.toList
  carried : ∃ head ∈ heads,
    HeadOf template composition.rootFrame (.ofScene .content settings scene.nodes) entry head ∧
      head.attribute? "data-layer-id" = some entry.node.props.id

/-- The element of a box with a pseudo-element carries the id of its node. -/
private theorem carried_of_headsOf {template : String} {root : Affine α} {entry : Entry α}
    {box : SceneBox α} {tables : Tables} {heads : List Head} {bag : Css.Declarations}
    (compiled : CompiledAs template root entry box) (mode : tables.mode = .content)
    (drawn : HeadsOf tables box heads) (strokes : entry.pseudo? = some bag) :
    ∃ head ∈ heads, HeadOf template root tables entry head ∧
      head.attribute? "data-layer-id" = some entry.node.props.id := by
  cases drawn with
  | @mk styling outer content boxed filled =>
    refine ⟨ownHead tables.mode box styling content.text, by simp,
      ⟨box, styling, outer, content.text, compiled, boxed, rfl⟩, ?_⟩
    have carries := carriesId_ownHead entry.node.props.id box styling content.text
    -- The mark asks for a listed stroke, and one that is drawn is listed.
    have marked : (box.hasStroke && box.id == entry.node.props.id) = true := by
      cases compiled with
      | node _ _ returned =>
        obtain ⟨-, layout, style, content, -, -, -, rfl⟩ := compileBox_cases returned
        simp [nodeBox, entry.strokes_of_pseudo strokes]
      | group grouped => exact absurd ((entry.pseudo_cases strokes).1.symm.trans grouped) (by decide)
    rw [mode]
    exact beq_iff_eq.mp (carries.trans marked)

/-- Every stroke is drawn once. In a composition that compiles each pseudo-element shows the stroke
of its node and is registered, and in the content the element of its box carries the id of the
node. -/
theorem strokes_are_drawn_once (template : String) (provider : FontProvider)
    (composition : Composition α) (settings : Settings) :
    (∀ (node : NodeProps α) (shadows : List (Shadow α)), node.DrawsOnce shadows) ∧
      ∀ scene markup, compileComposition template provider composition = .ok scene →
        renderScene .content settings scene = .ok markup →
        ∃ parts, headsAll markup.elements = parts.flatten ∧
          List.Forall₂ (fun entry heads => ∀ bag, entry.pseudo? = some bag →
              BindsOverlay template composition scene settings entry bag heads)
            (EntryTree.preorders composition.walk) parts := by
  refine ⟨NodeProps.drawsOnce, fun scene markup compiled rendered => ?_⟩
  obtain ⟨parts, each, same⟩ := headsAll_of_renderScene rendered
  have follows := forall₂_preorders (follows_walk compiled)
  refine ⟨parts, same, forall₂_imp_of_mem (forall₂_trans follows each) ?_⟩
  rintro entry member heads ⟨box, compiledAs, drawn⟩ bag strokes
  obtain ⟨-, shadows, stroke, found, pseudo⟩ := entry.pseudo_cases strokes
  exact ⟨entry.isEmpty_pseudo strokes, StrokeCss.declares_of_pseudo found pseudo,
    exists_rule compiled member strokes, carried_of_headsOf compiledAs rfl drawn strokes⟩

/-- Sides of different weights are drawn by a border over the box. -/
theorem strokedSketch_draws_once :
    ∃ paint stroke mechanism scene markup bag parts,
      (strokedProps "edge").ShowsStroke paint ∧
      StrokeCss.ofNode (strokedProps "edge") [] = .ok stroke ∧
      (strokedProps "edge").DrawsStroke paint [] stroke mechanism ∧
      compileComposition "" (fun _ => none) (strokedSketch "edge") = .ok scene ∧
      renderScene .content .default scene = .ok markup ∧
      (strokedEntry "edge").pseudo? = some bag ∧
      bag.get? "border-color" = some "rgb(255,0,0)" ∧
      bag.get? "border-width" = some "1px 2px 1px 2px" ∧
      headsAll markup.elements = parts.flatten ∧
      List.Forall₂ (fun entry heads => ∀ bag, entry.pseudo? = some bag →
          BindsOverlay "" (strokedSketch "edge") scene .default entry bag heads)
        [strokedEntry "edge"] parts := by
  obtain ⟨each, below⟩ :=
    strokes_are_drawn_once "" (fun _ => none) (strokedSketch "edge") .default
  have shows : (strokedProps "edge").ShowsStroke _ :=
    ⟨rfl, trivial, by decide +kernel, by decide +kernel, fun _ => ⟨_, rfl⟩⟩
  obtain ⟨stroke, drawn, -⟩ := Except.exists_of_any (fun _ => true)
    (show (StrokeCss.ofNode (strokedProps "edge") []).toOption.any _ = true by decide +kernel)
  obtain ⟨mechanism, draws, -⟩ := (each _ []).once stroke _ drawn shows
  obtain ⟨scene, compiled, rendered⟩ := Except.exists_of_any
    (fun scene => (renderScene .content .default scene).toOption.any fun _ => true)
    (show (compileComposition "" (fun _ => none) (strokedSketch "edge")).toOption.any _ = true by
      decide +kernel)
  obtain ⟨markup, rendered, -⟩ := Except.exists_of_any _ rendered
  obtain ⟨bag, strokes, border⟩ := (Option.any_eq_true _ _).mp
    (show ((strokedEntry "edge").pseudo?.any fun bag =>
      bag.get? "border-color" == some "rgb(255,0,0)" &&
        bag.get? "border-width" == some "1px 2px 1px 2px") = true by decide +kernel)
  rw [Bool.and_eq_true, beq_iff_eq, beq_iff_eq] at border
  obtain ⟨parts, same, binds⟩ := below scene markup compiled rendered
  exact ⟨_, stroke, mechanism, scene, markup, bag, parts, shows, drawn, draws, compiled, rendered,
    strokes, border.1, border.2, same, walk_strokedSketch "edge" ▸ binds⟩

end Render

end Artboard
