import Artboard.Proofs.Effects
import Artboard.Proofs.Scene.Enumeration

/-!
# Shadows of a scene

A bare holder paints no shadow itself and hands its shadows down. Every other
node paints its own shadows and those of the holders directly above it, each
once and in one list of values. Groups of masks are not in the way of a shadow.
-/
namespace Artboard

open Css Css.Declarations EntryTree

variable {α : Type} [Scalar α]

/-- The visible shadows of a style, in order. -/
def Style.visibleShadows (style : Style α) : Except Fault (List (Shadow α)) :=
  (style.effects.filter castsShadow).mapM shadowOf

theorem Style.effectSet_eq_ok_iff {style : Style α} {effects : EffectSet α} :
    style.effectSet = .ok effects ↔
      ∃ shadows, style.visibleShadows = .ok shadows ∧
        effects = ⟨shadows, largestRadius .layerBlur style.effects,
          largestRadius .backgroundBlur style.effects⟩ := by
  rw [effectSet, Except.bind_eq_ok_iff]
  refine exists_congr fun shadows => and_congr_right fun _ => ?_
  exact ⟨fun same => (Except.ok.inj same).symm, fun same => congrArg Except.ok same.symm⟩

/-- The colour of a visible shadow is written as a function. -/
theorem Style.isCall_visibleShadows {style : Style α} {shadows : List (Shadow α)}
    (visible : style.visibleShadows = .ok shadows) :
    ∀ shadow ∈ shadows, IsCall shadow.color.toList := by
  intro shadow member
  obtain ⟨effect, -, cast⟩ := exists_of_mem_right (Except.forall₂_of_mapM visible) member
  exact isCall_shadowOf cast

/-! ### Holders above a node -/

/-- The node is a frame that hands its shadows down instead of painting them. -/
def Node.isHolder (node : Node α) : Bool :=
  NodeKind.ofNode node.props == .frame && node.props.style.isBareHolder

/-- The holders directly above an entry, the outermost first. -/
def Entry.holders (entry : Entry α) : List (Node α) :=
  (entry.ancestors.takeWhile Node.isHolder).reverse

/-- The shadows that reach a node are those of the holders above it, up to the first frame that
holds none. -/
theorem shadowsFrom_eq_ok {ancestors : List (Node α)} {inherited : List (Shadow α)}
    (frames : ∀ container ∈ ancestors, NodeKind.ofNode container.props = .frame)
    (handed : shadowsFrom ancestors = .ok inherited) :
    ∃ each, List.Forall₂ (fun holder shadows => holder.props.style.visibleShadows = .ok shadows)
      (ancestors.takeWhile Node.isHolder).reverse each ∧ inherited = each.flatten := by
  induction ancestors generalizing inherited with
  | nil =>
    cases handed
    exact ⟨[], .nil, rfl⟩
  | cons container outer ih =>
    obtain ⟨isFrame, frames⟩ := List.forall_mem_cons.mp frames
    obtain ⟨above, reached, handed⟩ := Except.bind_eq_ok_iff.mp handed
    obtain ⟨each, shadows, rfl⟩ := ih frames reached
    have same : container.isHolder = container.props.style.isBareHolder := by
      simp [Node.isHolder, isFrame]
    rw [passedShadows] at handed
    rw [List.takeWhile_cons, same]
    split at handed
    next bare =>
      -- The own shadows of a holder come after those from further out.
      obtain ⟨effects, known, joined⟩ := Except.bind_eq_ok_iff.mp handed
      obtain ⟨own, visible, rfl⟩ := Style.effectSet_eq_ok_iff.mp known
      cases joined
      refine ⟨each ++ [own], ?_, by simp⟩
      rw [if_pos bare, List.reverse_cons]
      exact List.rel_append shadows (.cons visible .nil)
    next painted =>
      cases handed
      refine ⟨[], ?_, rfl⟩
      simp [painted]

/-- The shadows that are handed down to an entry have colours written as functions. -/
theorem Entry.PlacedIn.isCall_inherited {root : Affine α} {entry : Entry α}
    {place : Surroundings α} (placed : entry.PlacedIn root place) (lawful : entry.Lawful) :
    ∀ shadow ∈ place.inherited, IsCall shadow.color.toList := by
  obtain ⟨each, handed, flat⟩ := shadowsFrom_eq_ok
    (fun container member => (lawful.containers container member).2) placed.inherited
  rw [flat]
  intro shadow member
  obtain ⟨shadows, here, inside⟩ := List.mem_flatten.mp member
  obtain ⟨holder, -, visible⟩ := exists_of_mem_right handed here
  exact Style.isCall_visibleShadows visible shadow inside

/-! ### Boxes -/

/-- What a box with the shadows declares: in each list its own, then its stroke or its blur, then
the inherited ones. Both come with every shadow in one list, except inner shadows on text. -/
structure Painted (box : SceneBox α) (own : List (Shadow α)) (layerBlur : α) : Prop where
  declared : ∃ stroke : List String, stroke.length ≤ 1 ∧
    (∀ token ∈ stroke, IsInsetStroke α token) ∧
    ∀ list : ShadowList, list.Declared box.declarations
      (list.drawn box.kind false own ++ list.between stroke layerBlur ++
        list.drawn box.kind true box.inheritedShadows)
  once : ∀ isInherited, ∀ shadows ∈ [own, box.inheritedShadows],
    (ShadowList.all.flatMap fun list => shadows.filter fun shadow =>
      ShadowList.of? box.kind isInherited shadow = some list).Perm
        (shadows.filter fun shadow => !(box.kind == .text && shadow.inner))

/-- A box inherits the shadows of the holders above it. That of a holder declares no shadow, only a
blur, and every other box paints its own shadows and the inherited ones. -/
structure PaintsShadows (entry : Entry α) (box : SceneBox α) : Prop where
  inherited : ∃ each, List.Forall₂
    (fun holder shadows => holder.props.style.visibleShadows = .ok shadows) entry.holders each ∧
      box.inheritedShadows = each.flatten
  holder : entry.node.isHolder = true →
    box.declarations.get? "box-shadow" = none ∧ box.declarations.get? "text-shadow" = none ∧
      ShadowList.filter.Declared box.declarations
        (EffectTokens.blurToken (largestRadius .layerBlur entry.node.props.style.effects))
  painted : entry.node.isHolder = false →
    ∃ own, entry.node.props.style.visibleShadows = .ok own ∧
      Painted box own (largestRadius .layerBlur entry.node.props.style.effects)

/-- The lists of a box hold the shadows that it paints. A holder paints neither its own nor those
it inherits, and has no stroke. -/
private theorem declared_nodeBox {template : String} {root : Affine α} {entry : Entry α}
    {place : Surroundings α} {style : BoxStyle} (layout : Layout α) (content : Content)
    (placed : entry.PlacedIn root place)
    (colored : ∀ shadow ∈ place.inherited, IsCall shadow.color.toList)
    (styled : BoxStyle.ofNode template entry.node.props (NodeKind.ofNode entry.node.props)
      entry.node.props.style.isBareHolder place.inherited = .ok style) :
    ∃ own stroke, entry.node.props.style.visibleShadows = .ok own ∧ stroke.length ≤ 1 ∧
      (∀ token ∈ stroke, IsInsetStroke α token) ∧ (entry.node.isHolder = true → stroke = []) ∧
      ∀ list : ShadowList,
        list.Declared (nodeBox entry.node.props place layout style content).declarations
          (list.drawn (NodeKind.ofNode entry.node.props) false
              (if entry.node.isHolder then [] else own) ++
            list.between stroke (largestRadius .layerBlur entry.node.props.style.effects) ++
            list.drawn (NodeKind.ofNode entry.node.props) true
              (if entry.node.isHolder then [] else place.inherited)) := by
  obtain ⟨background, declared, stroke, painted, known, drawn, rfl⟩ := BoxStyle.ofNode_cases styled
  obtain ⟨own, visible, rfl⟩ := Style.effectSet_eq_ok_iff.mp known
  have ownColored := Style.isCall_visibleShadows visible
  have paints : paintsInherited (NodeKind.ofNode entry.node.props)
      entry.node.props.style.isBareHolder = !entry.node.isHolder := rfl
  have strokes : stroke.boxShadows.length ≤ 1 ∧
      ∀ token ∈ stroke.boxShadows, IsInsetStroke α token := by
    rcases boxShadows_cases drawn with none | ⟨token, one, inset⟩
    · simp [none]
    · simpa [one] using inset
  refine ⟨own, stroke.boxShadows, visible, strokes.1, strokes.2, fun holds => ?_, fun list => ?_⟩
  · -- A bare holder has no visible stroke paint.
    have bare := holds
    simp only [Node.isHolder, Style.isBareHolder, Bool.and_eq_true, Bool.not_eq_true'] at bare
    exact boxShadows_bare bare.2.1.2 drawn
  · refine ShadowList.declared_of_closed ?_ ?_
    · -- Neither the item nor the other parts of the style declare anything for the list.
      have foreign : list.property ∉ plainProperties := fun plain =>
        (mem_plainProperties.mp plain).2 list.property_mem
      rw [nodeBox, get?_update,
        get?_ofParts (within_boxBackground painted).ofPaint (within_strokeCss drawn).ofEdge.ofPaint
          list.property_mem,
        placed.itemCss.within.ofUnshared.get? foreign, Option.or_none, ShadowList.get?_css,
        ShadowList.values_boxTokens, paints]
      cases entry.node.isHolder <;> rfl
    · intro token member
      have painted {shadows : List (Shadow α)}
          (colored : ∀ shadow ∈ shadows, IsCall shadow.color.toList) :
          ∀ shadow ∈ (if entry.node.isHolder then [] else shadows), IsCall shadow.color.toList := by
        split
        · simp
        · exact colored
      rcases List.mem_append.mp member with member | member
      · rcases List.mem_append.mp member with member | member
        · exact ShadowList.isClosedValue_of_mem_drawn (painted ownColored) member
        · exact ShadowList.isClosedValue_of_mem_between strokes.2 member
      · exact ShadowList.isClosedValue_of_mem_drawn (painted colored) member

theorem paintsShadows_of_compiledAs {template : String} {root : Affine α} {entry : Entry α}
    {box : SceneBox α} (lawful : entry.Lawful) (alone : entry.isGroup = false)
    (compiled : CompiledAs template root entry box) : PaintsShadows entry box := by
  cases compiled with
  | group grouped => exact absurd (alone.symm.trans grouped) (by decide)
  | @node place _ _ placed returned =>
    obtain ⟨-, layout, style, content, -, styled, -, rfl⟩ := compileBox_cases returned
    obtain ⟨each, handed, flat⟩ := shadowsFrom_eq_ok
      (fun container member => (lawful.containers container member).2) placed.inherited
    obtain ⟨own, stroke, visible, short, inset, bare, declared⟩ :=
      declared_nodeBox layout content placed (placed.isCall_inherited lawful) styled
    refine ⟨⟨each, handed, flat⟩, fun holds => ?_, fun paints => ⟨own, visible, ?_⟩⟩
    · obtain rfl := bare holds
      simp only [holds, if_true] at declared
      refine ⟨(declared .box).value, (declared .text).value, ?_⟩
      simpa [ShadowList.drawn, ShadowList.between] using declared .filter
    · simp only [paints, Bool.false_eq_true, if_false] at declared
      exact ⟨⟨stroke, short, inset, declared⟩, fun isInherited shadows _ =>
        ShadowList.perm_drawn _ isInherited shadows⟩

/-- Every shadow of a composition that compiles is painted once, and by the right boxes. -/
theorem shadows_are_painted_once {template : String} {provider : FontProvider}
    {composition : Composition α} {scene : CompiledScene α}
    (compiled : compileComposition template provider composition = .ok scene) :
    List.Forall₂ (fun entry box => entry.isGroup = false → PaintsShadows entry box)
      (preorders composition.walk) (SceneNode.preorders scene.nodes) := by
  refine forall₂_imp_of_mem (forall₂_preorders (follows_walk compiled)) ?_
  intro entry member box compiled alone
  exact paintsShadows_of_compiledAs (lawful_walk composition entry member) alone compiled

/-- An effect of radius four that lies below its node. -/
def effectBelow (kind : EffectKind) (distance : Rat) : Effect Rat where
  kind := kind
  radius := 4
  spread := 0
  offset := ⟨0, distance⟩
  color := none
  visible := true

def withEffects (effects : List (Effect Rat)) (props : NodeProps Rat) : NodeProps Rat :=
  { props with style := { props.style with effects } }

def blackStroke : Paint Rat where
  visible := true
  opacity := 1
  blendMode := none
  source := .solid ⟨0, 0, 0, 1⟩

def outlinedProps (id : String) : NodeProps Rat :=
  let props := plainProps id "RECTANGLE" .identity
  { props with
    style := { props.style with strokes := [blackStroke], strokeWeights := some ⟨1, 1, 1, 1⟩ } }

def captionProps (id : String) : NodeProps Rat :=
  { plainProps id "TEXT" .identity with text := some ⟨"a", [], none, none, none, none, 0⟩ }

/-- A holder of a drop shadow with a holder of an inner shadow in it. That has a shape, a stroked
shape and a text, and vector content in the group of a mask. -/
def shadowedSketch : Composition Rat where
  name := "shadows"
  absOrigin := some ⟨0, 0⟩
  bounds := none
  children :=
    [.mk (withEffects [effectBelow .dropShadow 1] (plainProps "outer" "FRAME" .identity))
      [.mk (withEffects [effectBelow .innerShadow 2] (plainProps "inner" "FRAME" .identity))
        [.mk (withEffects [effectBelow .dropShadow 3]
          (plainProps "shape" "RECTANGLE" .identity)) [],
         .mk (outlinedProps "stroked") [],
         .mk (withEffects [effectBelow .dropShadow 5, effectBelow .layerBlur 0]
          (captionProps "label")) [],
         .mk { plainProps "mask" "RECTANGLE" .identity with isMask := true } [],
         .mk (withEffects [effectBelow .innerShadow 6]
          { plainProps "drawing" "VECTOR" .identity with
            svgContent := some "<svg/>", absoluteRenderBounds := some ⟨0, 0, 10, 20⟩ }) []]]]

/-- What each box declares for its lists of shadows. -/
def listedShadows (scene : CompiledScene α) : List (String × List (Option String)) :=
  (SceneNode.preorders scene.nodes).map fun box =>
    (box.id, ShadowList.all.map fun list => box.declarations.get? list.property)

def shadowedSketchLists : List (String × List (Option String)) :=
  [("outer", [none, none, none]),
   ("inner", [none, none, none]),
   ("shape",
    [some ("0px 3px 4px 0px rgb(0,0,0),0px 1px 4px 0px rgb(0,0,0)," ++
      "inset 0px 2px 4px 0px rgb(0,0,0)"), none, none]),
   ("stroked",
    [some ("inset 0 0 0 1px rgb(0,0,0),0px 1px 4px 0px rgb(0,0,0)," ++
      "inset 0px 2px 4px 0px rgb(0,0,0)"), none, none]),
   ("label",
    [none, some "0px 5px 4px rgb(0,0,0)",
     some "blur(2px) drop-shadow(0px 1px 4px rgb(0,0,0))"]),
   ("mask", [none, none, none]),
   ("drawing",
    [some "inset 0px 6px 4px 0px rgb(0,0,0),inset 0px 2px 4px 0px rgb(0,0,0)", none,
     some "drop-shadow(0px 1px 4px rgb(0,0,0))"])]

theorem shadowedSketch_paints_once :
    ∃ scene, compileComposition "" (fun _ => none) shadowedSketch = .ok scene ∧
      listedShadows scene = shadowedSketchLists ∧
      List.Forall₂ (fun entry box => entry.isGroup = false → PaintsShadows entry box)
        (preorders shadowedSketch.walk) (SceneNode.preorders scene.nodes) := by
  obtain ⟨scene, compiled, lists⟩ := Except.exists_of_any
    (fun scene => decide (listedShadows scene = shadowedSketchLists))
    (show (compileComposition "" (fun _ => none) shadowedSketch).toOption.any _ = true by
      decide +kernel)
  exact ⟨scene, compiled, of_decide_eq_true lists, shadows_are_painted_once compiled⟩

end Artboard
