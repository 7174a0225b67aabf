import Artboard.Proofs.Render.DropShadow
import Artboard.Proofs.Render.Extraction
import Artboard.Proofs.Scene.Shadows

/-!
# Shadows of wrapped boxes

The element of a turned box keeps the inset values of its list of shadows, and
the other shadows become filters of its wrapper, in order. Nothing else changes
on either of them.
-/
namespace Artboard.Render

open Markup Css.Declarations EntryTree

variable {α : Type} [Scalar α]

/-! ### Before the shadows move -/

/-- What decides whether a declaration of the element of a wrapped box is redundant. -/
def innerContext (box : SceneBox α) (inner : Css.Declarations) : BoxContext where
  position := some "absolute"
  rotatesOrScales := true
  display := inner.get? "display"
  isText := box.kind == .text

/-- What decides whether a declaration of a wrapper is redundant. -/
def outerContext (box : SceneBox α) : BoxContext where
  position := some box.layout.position.css
  rotatesOrScales := false
  display := none
  isText := false

/-- What the element of a wrapped box and its wrapper would declare if no shadow moved. -/
def unmovedCss (box : SceneBox α) (wrapper : Wrapper α) :
    Except Fault (Css.Declarations × Css.Declarations) := do
  let inner ← innerCss box wrapper
  return ((innerContext box inner).prune inner, (outerContext box).prune (outerCss box))

private theorem Migrates.prune {tokens : List String}
    {before after : Css.Declarations × Css.Declarations} (migrates : Migrates tokens before after)
    (inner outer : BoxContext) :
    Migrates tokens (inner.prune before.1, outer.prune before.2)
      (inner.prune after.1, outer.prune after.2) where
  kept := (get?_prune_of_notMem (by decide)).trans migrates.kept
  inner := by simp only [erase, filter_prune]; exact congrArg _ migrates.inner
  moved := (get?_prune_of_notMem (by decide)).trans migrates.moved
  outer := by simp only [erase, filter_prune]; exact congrArg _ migrates.outer

/-- Nothing but the list of shadows changes on the element. -/
private theorem Migrates.get?_inner {tokens : List String}
    {before after : Css.Declarations × Css.Declarations} (migrates : Migrates tokens before after)
    {name : String} (other : name ≠ "box-shadow") : after.1.get? name = before.1.get? name := by
  have kept : (!(name == "box-shadow")) = true := by simpa using other
  have same : (after.1.erase "box-shadow").get? name = (before.1.erase "box-shadow").get? name :=
    congrArg (·.get? name) migrates.inner
  rwa [erase, get?_filter kept, erase, get?_filter kept] at same

/-- The declarations of a turned box are those before the shadows move, after the move. -/
private theorem migrates_of_wrappedCss {box : SceneBox α} {wrapper : Wrapper α}
    {moved : Css.Declarations × Css.Declarations}
    (turned : box.layout.transform.isIdentity = false)
    (wrapped : wrappedCss box wrapper = .ok moved)
    (unfiltered : (outerCss box).get? "filter" = none) {tokens : List String}
    (declared : ∀ inner, innerCss box wrapper = .ok inner → ShadowList.box.Declared inner tokens) :
    ∃ unmoved, unmovedCss box wrapper = .ok unmoved ∧ Migrates tokens unmoved moved := by
  obtain ⟨inner, started, wrapped⟩ := Except.bind_eq_ok_iff.mp wrapped
  simp only [turned, Bool.false_eq_true, if_false] at wrapped
  have migrates := migrates_of_declared (declared inner started) unfiltered
  cases migrated : migrateShadows inner (outerCss box) with
  | mk first second =>
    rw [migrated] at wrapped migrates
    cases wrapped
    refine ⟨_, Except.bind_eq_ok_iff.mpr ⟨inner, started, rfl⟩, ?_⟩
    -- The move does not change how the element is displayed, so the same is redundant after it.
    have context : innerContext box first = innerContext box inner := by
      rw [innerContext, innerContext, migrates.get?_inner (by decide)]
    change Migrates tokens _ ((innerContext box first).prune first, (outerContext box).prune second)
    rw [context]
    exact migrates.prune _ _

/-! ### Declarations of the elements -/

private theorem get?_visualCss {box : SceneBox α} {name : String}
    (foreign : name ∉ containerProperties) :
    (visualCss box).get? name = box.declarations.get? name := by
  have within : box.layout.containerCss.Within containerProperties := by
    intro name member
    obtain ⟨declaration, here, rfl⟩ := List.mem_map.mp member
    exact (containerCss_cases here).1
  rw [visualCss]
  split
  · rw [get?_update, within.get? foreign, Option.or_none]
  · rfl

/-- The element declares the list of shadows of its box. -/
private theorem get?_innerCss {box : SceneBox α} {wrapper : Wrapper α} {inner : Css.Declarations}
    (started : innerCss box wrapper = .ok inner) :
    inner.get? "box-shadow" = box.declarations.get? "box-shadow" := by
  obtain ⟨centering, centered, started⟩ := Except.bind_eq_ok_iff.mp started
  cases started
  have placed : ∀ name ∈ placeProperties, name ≠ "box-shadow" := by decide
  have foreign : "box-shadow" ∉ Css.names ([("position", "absolute")] ++ centering ++
      [("width", Css.px wrapper.contentWidth), ("height", Css.px wrapper.contentHeight)]) := by
    intro member
    obtain ⟨declaration, here, same⟩ := List.mem_map.mp member
    simp only [List.cons_append, List.nil_append, List.mem_cons, List.mem_append,
      List.not_mem_nil, or_false] at here
    rcases here with rfl | here | rfl | rfl
    · simp at same
    · exact placed _ (centeringDeclarations_names centered _ here) same
    · simp at same
    · simp at same
  have start : (Css.Declarations.ofList ([("position", "absolute")] ++ centering ++
      [("width", Css.px wrapper.contentWidth), ("height", Css.px wrapper.contentHeight)])).get?
        "box-shadow" = none := get?_setAll_of_notMem foreign
  rw [get?_update, start, Option.or_none, without, get?_filter (by decide),
    get?_visualCss (by decide)]

/-- No filter is on a wrapper before shadows move to it. -/
private theorem get?_outerCss (box : SceneBox α) : (outerCss box).get? "filter" = none := by
  have placing : ((visualCss box).subset placingProperties).get? "filter" = none := by
    refine Option.eq_none_iff_forall_ne_some.mpr fun value found => ?_
    have member := get?_eq_some_iff.mp found
    simp [subset, Css.Declarations.filter, placingProperties] at member
  rw [outerCss, get?_update, get?_update, placing,
    (within_itemCss box.layout).get? (by decide), get?_ofList (by simp [Css.names])]
  rfl

/-! ### Shadows of a turned box -/

/-- The shadows that a box of the kind draws around itself or inside. -/
def boxShadows (kind : NodeKind) (isInherited : Bool) (shadows : List (Shadow α)) :
    List (Shadow α) :=
  shadows.filter fun shadow => ShadowList.of? kind isInherited shadow = some .box

/-- The list of a box: its own shadows, its inset stroke and the shadows that it inherits. -/
def shadowValues (own inherited : List (Shadow α)) (stroke : List String) : List String :=
  own.map Shadow.boxToken ++ stroke ++ inherited.map Shadow.boxToken

/-- How the shadows of a turned box are divided between its element and its wrapper. -/
structure Divides (own inherited : List (Shadow α)) (stroke : List String)
    (unmoved moved : Css.Declarations × Css.Declarations) : Prop where
  listed : unmoved.1.get? "box-shadow" = ShadowList.box.listed (shadowValues own inherited stroke)
  /-- The element keeps its inset values, which are those of inner shadows and the stroke. -/
  kept : moved.1.get? "box-shadow" =
    ShadowList.box.listed ((shadowValues own inherited stroke).filter isInset)
  inset : (shadowValues own inherited stroke).filter isInset =
    shadowValues (own.filter (·.inner)) (inherited.filter (·.inner)) stroke
  /-- The wrapper gets the filters of the other shadows. -/
  filters : moved.2.get? "filter" =
    ShadowList.filter.listed (((own ++ inherited).filter (!·.inner)).map Shadow.dropToken)
  unfiltered : unmoved.2.get? "filter" = none
  inner : moved.1.erase "box-shadow" = unmoved.1.erase "box-shadow"
  outer : moved.2.erase "filter" = unmoved.2.erase "filter"

section Shadows

variable {own inherited : List (Shadow α)} {stroke : List String}

private theorem filter_isInset (shadows : List (Shadow α)) :
    (shadows.map Shadow.boxToken).filter isInset =
      (shadows.filter (·.inner)).map Shadow.boxToken := by
  have same : shadows.filter (isInset ∘ Shadow.boxToken) = shadows.filter (·.inner) :=
    List.filter_congr fun shadow _ => by rw [Function.comp_apply, isInset_boxToken]
  rw [List.filter_map, same]

private theorem dropShadow_outer (shadows : List (Shadow α))
    (colored : ∀ shadow ∈ shadows, Css.IsCall shadow.color.toList) :
    ((shadows.map Shadow.boxToken).filter fun token => !isInset token).map dropShadow =
      (shadows.filter (!·.inner)).map Shadow.dropToken := by
  have same : shadows.filter ((fun token => !isInset token) ∘ Shadow.boxToken) =
      shadows.filter (!·.inner) :=
    List.filter_congr fun shadow _ => by rw [Function.comp_apply, isInset_boxToken]
  rw [List.filter_map, List.map_map, same]
  refine List.map_congr_left fun shadow member => ?_
  obtain ⟨here, outer⟩ := List.mem_filter.mp member
  exact dropShadow_boxToken (colored shadow here) (by simpa using outer)

private theorem divides_of_migrates {unmoved moved : Css.Declarations × Css.Declarations}
    (ownColored : ∀ shadow ∈ own, Css.IsCall shadow.color.toList)
    (colored : ∀ shadow ∈ inherited, Css.IsCall shadow.color.toList)
    (strokes : ∀ token ∈ stroke, IsInsetStroke α token)
    (listed : unmoved.1.get? "box-shadow" =
      ShadowList.box.listed (shadowValues own inherited stroke))
    (unfiltered : unmoved.2.get? "filter" = none)
    (migrates : Migrates (shadowValues own inherited stroke) unmoved moved) :
    Divides own inherited stroke unmoved moved := by
  have inset : stroke.filter isInset = stroke :=
    List.filter_eq_self.mpr fun token member => isInset_of_isInsetStroke (strokes token member)
  have outer : stroke.filter (fun token => !isInset token) = [] :=
    List.filter_eq_nil_iff.mpr fun token member => by
      simp [isInset_of_isInsetStroke (strokes token member)]
  refine ⟨listed, migrates.kept, ?_, ?_, unfiltered, migrates.inner, migrates.outer⟩
  · simp only [shadowValues, List.filter_append, filter_isInset, inset]
  · rw [migrates.moved, shadowValues, List.filter_append, List.filter_append, outer,
      List.append_nil, List.map_append, dropShadow_outer own ownColored,
      dropShadow_outer inherited colored, List.filter_append, List.map_append]

end Shadows

/-- The shadows in the list of a box: a holder draws none, and every other box its own and those
that it inherits. -/
inductive ListsShadows (entry : Entry α) (box : SceneBox α) :
    List (Shadow α) → List (Shadow α) → Prop
  | holder : entry.node.isHolder = true → ListsShadows entry box [] []
  | painted {own} : entry.node.isHolder = false →
      entry.node.props.style.visibleShadows = .ok own →
      ListsShadows entry box (boxShadows box.kind false own)
        (boxShadows box.kind true box.inheritedShadows)

private theorem declared_innerCss {box : SceneBox α} {wrapper : Wrapper α}
    {inner : Css.Declarations} {tokens : List String}
    (declared : ShadowList.box.Declared box.declarations tokens)
    (started : innerCss box wrapper = .ok inner) : ShadowList.box.Declared inner tokens := by
  have same : inner.get? ShadowList.box.property = box.declarations.get? ShadowList.box.property :=
    get?_innerCss started
  exact ⟨same.trans declared.value, fun text found => declared.split text (same ▸ found)⟩

/-- A box has the list of the shadows that it draws, with a stroke between its own and the
inherited ones. -/
private theorem listsShadows_of_paintsShadows {entry : Entry α} {box : SceneBox α}
    (paints : PaintsShadows entry box) :
    ∃ own inherited stroke, ListsShadows entry box own inherited ∧ stroke.length ≤ 1 ∧
      (∀ token ∈ stroke, IsInsetStroke α token) ∧
      (∀ shadow ∈ own, Css.IsCall shadow.color.toList) ∧
      (∀ shadow ∈ inherited, Css.IsCall shadow.color.toList) ∧
      ShadowList.box.Declared box.declarations (shadowValues own inherited stroke) := by
  cases holds : entry.node.isHolder with
  | true =>
    refine ⟨[], [], [], .holder holds, by simp, by simp, by simp, by simp, ?_⟩
    have undeclared : box.declarations.get? ShadowList.box.property = none :=
      (paints.holder holds).1
    refine ⟨undeclared, fun text found => ?_⟩
    rw [undeclared] at found
    cases found
  | false =>
    obtain ⟨own, visible, painted⟩ := paints.painted holds
    obtain ⟨stroke, short, inset, declared⟩ := painted.declared
    obtain ⟨each, handed, flat⟩ := paints.inherited
    refine ⟨_, _, stroke, .painted holds visible, short, inset, fun shadow member => ?_,
      fun shadow member => ?_, declared .box⟩
    · exact Style.isCall_visibleShadows visible shadow (List.mem_of_mem_filter member)
    · have member := List.mem_of_mem_filter member
      rw [flat] at member
      obtain ⟨shadows, here, inside⟩ := List.mem_flatten.mp member
      obtain ⟨holder, -, visible⟩ := exists_of_mem_right handed here
      exact Style.isCall_visibleShadows visible shadow inside

private theorem isGroup_of_wrapped {template : String} {root : Affine α} {entry : Entry α}
    {box : SceneBox α} (compiled : CompiledAs template root entry box)
    (wrapped : box.layout.wrapper ≠ none) : entry.isGroup = false := by
  cases compiled with
  | node alone => exact alone
  | group grouped =>
    refine absurd ?_ wrapped
    simp only [maskBox, maskLayout]
    split <;> rfl

/-- The shadows of a turned box are divided between the elements that draw it. -/
structure MovesShadows (tables : Tables) (entry : Entry α) (box : SceneBox α) (wrapper : Wrapper α)
    (outer : Option Head) (head : Head) (own inherited : List (Shadow α)) (stroke : List String)
    (unmoved moved : Css.Declarations × Css.Declarations) : Prop where
  lists : ListsShadows entry box own inherited
  stroked : stroke.length ≤ 1 ∧ ∀ token ∈ stroke, IsInsetStroke α token
  original : box.declarations.get? "box-shadow" =
    ShadowList.box.listed (shadowValues own inherited stroke)
  before : unmovedCss box wrapper = .ok unmoved
  after : wrappedCss box wrapper = .ok moved
  divides : Divides own inherited stroke unmoved moved
  above : ∃ wrapperHead, outer = some wrapperHead ∧
    wrapperHead.attribute? "style" = styleText? moved.2
  /-- The style of the element is what has no class, the list of shadows with it. -/
  element : ∃ found, CarriesExtraction tables box head found ∧
    found.inline = (Classes.splitUtilities moved.1).2 ∧
    found.inline.get? "box-shadow" = moved.1.get? "box-shadow"

private theorem shadow_splitUtilities (bag : Css.Declarations) :
    (Classes.splitUtilities bag).2.get? "box-shadow" = bag.get? "box-shadow" := by
  ext value
  rw [get?_eq_some_iff, get?_eq_some_iff, Classes.toList_splitUtilities, List.mem_filter]
  have inline : Classes.utilityClass? ("box-shadow", value) = none :=
    utilityClass?_shared (show "box-shadow" ∈ Classes.sharedProperties by decide)
  simp [inline]

private theorem movesShadows_of_compiledAs {template : String} {root : Affine α} {entry : Entry α}
    {box : SceneBox α} (lawful : entry.Lawful) (compiled : CompiledAs template root entry box)
    {wrapper : Wrapper α} (wrapped : box.layout.wrapper = some wrapper)
    (turned : box.layout.transform.isIdentity = false) {tables : Tables}
    (content : tables.mode = .content) {names : List String} {outer : Option Head} {head : Head}
    (styled : StyledAs tables names box outer head) :
    ∃ own inherited stroke unmoved moved,
      MovesShadows tables entry box wrapper outer head own inherited stroke unmoved moved := by
  have alone := isGroup_of_wrapped compiled (by simp [wrapped])
  obtain ⟨own, inherited, stroke, lists, short, inset, ownColored, colored, declared⟩ :=
    listsShadows_of_paintsShadows (paintsShadows_of_compiledAs lawful alone compiled)
  obtain ⟨found, css, carries, -, surrounded, rfl⟩ := styled.content content
  have extracted := carries.extracted
  -- The wrapper and the box get the two halves of one migration.
  rw [Extraction.ofBox, carriedCss, wrapped] at extracted
  rw [outerDeclarations, wrapped] at surrounded
  cases after : wrappedCss box wrapper with
  | error fault => simp [after, Except.map] at surrounded
  | ok moved =>
    simp only [after, Except.map, Except.ok.injEq] at surrounded extracted
    obtain ⟨unmoved, before, migrates⟩ := migrates_of_wrappedCss turned after (get?_outerCss box)
      fun inner started => declared_innerCss declared started
    have listed : unmoved.1.get? "box-shadow" =
          ShadowList.box.listed (shadowValues own inherited stroke) ∧
        unmoved.2.get? "filter" = none := by
      obtain ⟨inner, started, same⟩ := Except.bind_eq_ok_iff.mp before
      cases same
      exact ⟨(get?_prune_of_notMem (by decide)).trans (declared_innerCss declared started).value,
        (get?_prune_of_notMem (by decide)).trans (get?_outerCss box)⟩
    have inline : found.inline = (Classes.splitUtilities moved.1).2 := by
      have single : isShareable box = false := by simp [isShareable, isSingle, wrapped]
      rw [← extracted, Extraction.ofBag, single]
      rfl
    refine ⟨own, inherited, stroke, unmoved, moved, lists, ⟨short, inset⟩, declared.value, before,
      after, divides_of_migrates ownColored colored inset listed.1 listed.2 migrates, ?_, found,
      carries, inline, ?_⟩
    · rw [← surrounded]
      exact ⟨_, rfl, (attribute?_plainHead _ _ _).trans (style_wrapperAttributes _ _ _)⟩
    · rw [inline, shadow_splitUtilities]

/-- The color is one that a colour is written as, or that of a shadow without one. -/
def IsWrittenColor (α : Type) [Scalar α] (text : String) : Prop :=
  text = "rgb(0,0,0)" ∨ ∃ color : Color α, ∃ opacity, Paint.colorCss color opacity = .ok text

/-- Moving a shadow out of the list of its box gives the filter that is written for the shadow, and
in the content exactly the outer shadows of each turned box in a wrapper are moved like this. -/
theorem shadows_move_to_wrappers (α : Type) [Scalar α] :
    (∀ shadow : Shadow α, IsWrittenColor α shadow.color → shadow.inner = false →
      dropShadow shadow.boxToken = shadow.dropToken) ∧
    ∀ {template : String} {provider : FontProvider} {composition : Composition α}
      {settings : Settings} {scene : CompiledScene α} {markup : RenderedMarkup},
      compileComposition template provider composition = .ok scene →
      renderScene .content settings scene = .ok markup →
      List.Forall₂ (Draws fun box outer head => ∀ wrapper, box.layout.wrapper = some wrapper →
        box.layout.transform.isIdentity = false →
        ∃ entry ∈ preorders composition.walk, CompiledAs template composition.rootFrame entry box ∧
          ∃ own inherited stroke unmoved moved,
            MovesShadows (.ofScene .content settings scene.nodes) entry box wrapper outer head
              own inherited stroke unmoved moved) scene.nodes markup.elements := by
  refine ⟨fun shadow color outer => dropShadow_boxToken ?_ outer, ?_⟩
  · rcases color with black | ⟨color, opacity, written⟩
    · rw [black]
      exact Paint.isCall_black
    · exact Paint.isCall_colorCss written
  · intro template provider composition settings scene markup compiled rendered
    obtain ⟨used, drawn, -⟩ := renderScene_cases rendered
    refine forall₂_imp_of_mem drawn.draws fun node member element draws => ?_
    refine draws.mono node element fun box inside outer head styled wrapper wrapped turned => ?_
    obtain ⟨entry, listed, compiledAs⟩ := exists_of_mem_right
      (forall₂_preorders (follows_walk compiled)) (mem_preorders_of_mem member inside)
    exact ⟨entry, listed, compiledAs, movesShadows_of_compiledAs
      (lawful_walk composition entry listed) compiledAs wrapped turned rfl styled⟩

def turnedShadow : Shadow Rat := ⟨false, 0, 3, 4, 2, "rgb(0,0,0)"⟩

def turnedProps (props : NodeProps Rat) : NodeProps Rat :=
  { props with absoluteTransform := some ⟨0, 1, -1, 0, 30, 0⟩ }

/-- A row that hands a shadow down to a shape with shadows of both kinds and to a stroked one. Both
are turned and so wrapped. -/
def turnedSketch : Composition Rat where
  name := "turned"
  absOrigin := some ⟨0, 0⟩
  bounds := none
  children :=
    [.mk { withEffects [effectBelow .dropShadow 1] (plainProps "row" "FRAME" .identity) with
           layoutMode := .horizontal }
      [.mk (withEffects [effectBelow .dropShadow 3, effectBelow .innerShadow 2]
        (turnedProps (plainProps "shape" "RECTANGLE" .identity))) [],
       .mk (turnedProps (outlinedProps "stroked")) []]]

/-- What the two elements of each turned box in a wrapper declare for their shadows. -/
def movedLists (scene : CompiledScene α) : List (String × List (Option String)) :=
  (SceneNode.preorders scene.nodes).filterMap fun box =>
    if box.layout.transform.isIdentity then none
    else box.layout.wrapper.bind fun wrapper =>
      (wrappedCss box wrapper).toOption.map fun moved =>
        (box.id, [moved.1.get? "box-shadow", moved.2.get? "filter"])

def turnedSketchLists : List (String × List (Option String)) :=
  [("shape", [some "inset 0px 2px 4px 0px rgb(0,0,0)",
    some "drop-shadow(0px 3px 4px rgb(0,0,0)) drop-shadow(0px 1px 4px rgb(0,0,0))"]),
   ("stroked", [some "inset 0 0 0 1px rgb(0,0,0)", some "drop-shadow(0px 1px 4px rgb(0,0,0))"])]

theorem turnedSketch_moves_shadows :
    dropShadow turnedShadow.boxToken = turnedShadow.dropToken ∧
    ∃ scene markup, compileComposition "" (fun _ => none) turnedSketch = .ok scene ∧
      renderScene .content .default scene = .ok markup ∧
      movedLists scene = turnedSketchLists ∧
      List.Forall₂ (Draws fun box outer head => ∀ wrapper, box.layout.wrapper = some wrapper →
        box.layout.transform.isIdentity = false →
        ∃ entry ∈ preorders turnedSketch.walk, CompiledAs "" turnedSketch.rootFrame entry box ∧
          ∃ own inherited stroke unmoved moved,
            MovesShadows (.ofScene .content .default scene.nodes) entry box wrapper outer head
              own inherited stroke unmoved moved) scene.nodes markup.elements := by
  refine ⟨(shadows_move_to_wrappers Rat).1 turnedShadow (.inl rfl) rfl, ?_⟩
  obtain ⟨scene, compiled, holds⟩ := Except.exists_of_any
    (fun scene => decide (movedLists scene = turnedSketchLists) &&
      (renderScene .content .default scene).toOption.any fun _ => true)
    (show (compileComposition "" (fun _ => none) turnedSketch).toOption.any _ = true by
      decide +kernel)
  simp only [Bool.and_eq_true, decide_eq_true_eq] at holds
  obtain ⟨lists, drawn⟩ := holds
  obtain ⟨markup, rendered, -⟩ := Except.exists_of_any _ drawn
  exact ⟨scene, markup, compiled, rendered, lists,
    (shadows_move_to_wrappers Rat).2 compiled rendered⟩

end Artboard.Render
