import Artboard.Proofs.Render.Overlay
import Artboard.Proofs.Scene.Placement

/-!
# Origins of transforms

The transform of an absolute box is about its top left corner, while a browser
takes the centre unless told otherwise. The origin is declared with the
transforms that turn or scale, and left out with all others. A reflection of the
second axis does neither, and so loses its origin.
-/
namespace Artboard.Render

open Css.Declarations Classes

variable {α : Type} [Scalar α]

/-! ### Declarations of a transformed box -/

private theorem within_visualCss {box : SceneBox α} (look : box.declarations.Within boxProperties) :
    (visualCss box).Within (containerProperties ++ boxProperties) := by
  have looks : box.declarations.Within (containerProperties ++ boxProperties) :=
    look.mono (List.subset_append_right _ _)
  rw [visualCss]
  split
  · refine Within.update (fun name member => List.mem_append_left _ ?_) looks
    obtain ⟨declaration, here, rfl⟩ := List.mem_map.mp member
    exact (containerCss_cases here).1
  · exact looks

/-- Before redundant declarations are left out, a transformed box declares its transform and the
origin of its layout. -/
private theorem placed_transform {layout : Layout α} (moves : layout.transform.isIdentity = false)
    {place : List Css.Declaration} (placed : positionDeclarations layout = .ok place) :
    ∃ matrix, Css.linearMatrix layout.transform = .ok matrix ∧
      place = [("position", layout.position.css), ("left", Css.px layout.left),
        ("top", Css.px layout.top), ("transform-origin", layout.origin.css),
        ("transform", matrix)] := by
  unfold positionDeclarations at placed
  simp only [moves, Bool.false_eq_true, if_false] at placed
  obtain ⟨matrix, written, placed⟩ := Except.bind_eq_ok_iff.mp placed
  cases placed
  exact ⟨matrix, written, rfl⟩

private theorem isRedundant_origin (context : BoxContext) (value : String) :
    context.isRedundant ("transform-origin", value) = !context.rotatesOrScales := by
  simp [BoxContext.isRedundant, BoxContext.kept, BoxContext.isFlexDefault]

private theorem isRedundant_transform (context : BoxContext) (value : String) :
    context.isRedundant ("transform", value) = false := by
  simp [BoxContext.isRedundant, BoxContext.kept]

/-- Of the two declarations of a transformed box, the origin is redundant where the transform
neither turns nor scales. -/
theorem transform_of_sizedCss {box : SceneBox α} (look : box.declarations.Within boxProperties)
    (moves : box.layout.transform.isIdentity = false) {whole : Css.Declarations}
    (styled : sizedCss box (sizeDeclarations box.layout) = .ok whole) :
    ∃ matrix, Css.linearMatrix box.layout.transform = .ok matrix ∧
      ("transform", matrix) ∈ whole.toList ∧
      ∀ value, ("transform-origin", value) ∈ whole.toList ↔
        value = box.layout.origin.css ∧ box.layout.transform.rotatesOrScales = true := by
  obtain ⟨place, placed, styled⟩ := Except.bind_eq_ok_iff.mp styled
  cases styled
  obtain ⟨matrix, written, rfl⟩ := placed_transform moves placed
  let start : List Css.Declaration := [("position", box.layout.position.css),
    ("left", Css.px box.layout.left), ("top", Css.px box.layout.top),
    ("transform-origin", box.layout.origin.css), ("transform", matrix)] ++
      sizeDeclarations box.layout
  have distinct : (Css.names start).Nodup := by simp [start, sizeDeclarations, Css.names]
  -- Neither the part in the flow nor the look of the box is about its transform.
  have declares {name : String} (item : name ∉ itemProperties)
      (unseen : name ∉ containerProperties ++ boxProperties) :
      (((Css.Declarations.ofList start).update box.layout.itemCss).update
        (visualCss box)).get? name = start.lookup name := by
    rw [get?_update, get?_update, (within_visualCss look).get? unseen,
      (within_itemCss box.layout).get? item, get?_ofList distinct]
    simp
  have matrix_of : start.lookup "transform" = some matrix := rfl
  have origin_of : start.lookup "transform-origin" = some box.layout.origin.css := rfl
  refine ⟨matrix, written, ?_, fun value => ?_⟩
  · rw [toList_prune, List.mem_filter, ← get?_eq_some_iff, declares (by decide) (by decide),
      matrix_of, isRedundant_transform]
    exact ⟨rfl, rfl⟩
  · rw [toList_prune, List.mem_filter, ← get?_eq_some_iff, declares (by decide) (by decide),
      origin_of, isRedundant_origin, Option.some.injEq, Bool.not_not, eq_comm]
    rfl

/-! ### Declarations of an element -/

/-- What the element of a box declares in the end: in the content its style and the rules of the
classes that the passes attach to it, in the overlay its style alone. -/
inductive DeclaresInAll (tables : Tables) (rules : List ClassRule) (box : SceneBox α)
    (head : Markup.Head) : List Css.Declaration → Prop
  | content {found} :
      tables.mode = .content → CarriesExtraction tables box head found →
      DeclaresInAll tables rules box head (found.declared rules)
  | overlay {whole} :
      tables.mode = .overlay → wholeCss box = .ok whole →
      head.attribute? "style" = styleText? (whole.subset geometryProperties) →
      DeclaresInAll tables rules box head (whole.subset geometryProperties).toList

/-- In either mode an element declares all the geometry of its box. -/
private theorem StyledAs.geometry {mode : Mode} {settings : Settings} {nodes : List (SceneNode α)}
    {used : UtilitySet} {box : SceneBox α} {outer : Option Markup.Head} {head : Markup.Head}
    (tidy : Tidy box) (distinct : used.names.Nodup)
    (styled : StyledAs (.ofScene mode settings nodes) used.names box outer head) :
    ∃ whole declared, wholeCss box = .ok whole ∧
      DeclaresInAll (.ofScene mode settings nodes)
        (classRules (.ofScene mode settings nodes) used) box head declared ∧
      ∀ declaration, declaration.1 ∈ geometryProperties →
        (declaration ∈ declared ↔ declaration ∈ whole.toList) := by
  cases mode with
  | content =>
    obtain ⟨found, _, carries, known, -⟩ := styled.content rfl
    obtain ⟨whole, rest, moved, wholly, passes⟩ := passes_ofBox tidy carries.extracted
    refine ⟨whole, _, wholly, .content rfl carries, fun declaration geometry => ?_⟩
    -- The passes move geometry without changing it.
    have same := (passes.geometry distinct known).mem_iff (a := declaration)
    simpa [subset, Css.Declarations.filter, geometry] using same.symm
  | overlay =>
    obtain ⟨whole, _, wholly, style, -⟩ := styled.overlay rfl
    refine ⟨whole, _, wholly, .overlay rfl wholly style, fun declaration geometry => ?_⟩
    simp [subset, Css.Declarations.filter, geometry]

/-- Where an absolute box without a wrapper is transformed, its transform is declared. The origin
of the layout is declared with it exactly where the transform turns or scales, and it is then the
top left corner. -/
def OriginFollows (box : SceneBox α) (declared : List Css.Declaration) : Prop :=
  isSingle box = true → box.layout.position = .absolute →
    box.layout.transform.isIdentity = false →
    ∃ matrix, Css.linearMatrix box.layout.transform = .ok matrix ∧
      ("transform", matrix) ∈ declared ∧
      ∀ value, ("transform-origin", value) ∈ declared ↔
        value = "top left" ∧ box.layout.transform.rotatesOrScales = true

private theorem originFollows_of_geometry {template : String} {root : Affine α} {entry : Entry α}
    {box : SceneBox α} (compiled : CompiledAs template root entry box) {whole : Css.Declarations}
    (wholly : wholeCss box = .ok whole) {declared : List Css.Declaration}
    (same : ∀ declaration, declaration.1 ∈ geometryProperties →
      (declaration ∈ declared ↔ declaration ∈ whole.toList)) : OriginFollows box declared := by
  intro single absolute moves
  have alone : box.layout.wrapper = none := by simpa [isSingle] using single
  rw [wholeCss, alone] at wholly
  obtain ⟨matrix, written, transformed, origin⟩ :=
    transform_of_sizedCss (within_declarations compiled) moves wholly
  have corner : box.layout.origin.css = "top left" := by
    rw [origin_of_compiledAs compiled absolute]
    rfl
  have known : "transform" ∈ geometryProperties ∧ "transform-origin" ∈ geometryProperties := by
    decide
  refine ⟨matrix, written, (same ("transform", matrix) known.1).mpr transformed, fun value => ?_⟩
  rw [same ("transform-origin", value) known.2, origin value, corner]

/-- In both modes the origin of a transform follows its turns and scales. -/
theorem origins_follow_turns_and_scales {template : String} {provider : FontProvider}
    {composition : Composition α} {scene : CompiledScene α} {mode : Mode} {settings : Settings}
    {markup : RenderedMarkup}
    (compiled : compileComposition template provider composition = .ok scene)
    (rendered : renderScene mode settings scene = .ok markup) :
    ∃ used, markup.css = contentCss scene (.ofScene mode settings scene.nodes) used ∧
      List.Forall₂ (Draws fun box _ head => ∃ declared,
        DeclaresInAll (.ofScene mode settings scene.nodes)
          (classRules (.ofScene mode settings scene.nodes) used) box head declared ∧
        OriginFollows box declared) scene.nodes markup.elements := by
  obtain ⟨used, drawn, written⟩ := renderScene_cases rendered
  refine ⟨used, written, forall₂_imp_of_mem drawn.draws fun node member element draws => ?_⟩
  refine draws.mono node element fun box inside outer head styled => ?_
  obtain ⟨entry, -, compiledAs⟩ := exists_of_mem_right (forall₂_preorders (follows_walk compiled))
    (mem_preorders_of_mem member inside)
  obtain ⟨whole, declared, wholly, declares, same⟩ :=
    styled.geometry (tidy_of_compiledAs compiledAs) drawn.distinct
  exact ⟨declared, declares, originFollows_of_geometry compiledAs wholly same⟩

/-- A shape that is upside down: its second axis is reflected. -/
def mirroredSketch : Composition Rat where
  name := "mirrored"
  absOrigin := some ⟨0, 0⟩
  bounds := none
  children := [.mk (plainProps "mirror" "RECTANGLE" ⟨1, 0, 0, -1, 0, 20⟩) []]

/-- Each box is an absolute one without a wrapper and has a transform about its top left corner. -/
def allTransformed (scene : CompiledScene α) : Bool :=
  (SceneNode.preorders scene.nodes).all fun box =>
    isSingle box && box.layout.position == .absolute && !box.layout.transform.isIdentity &&
      box.layout.origin == .topLeft

/-- The styles of the top-level elements, where the stylesheet is blank. -/
def bareStyles (mode : Mode) (scene : CompiledScene α) : Option (List (Option String)) :=
  match renderScene mode .default scene with
  | .ok markup =>
    if markup.css = "" then
      some (markup.elements.map fun element => element.head.attribute? "style")
    else none
  | .error _ => none

def mirroredStyle : String :=
  "position:absolute;left:0px;top:20px;transform:matrix(1,0,0,-1,0,0);width:10px;height:20px;"

theorem mirroredSketch_origin_follows :
    ∃ scene markup, compileComposition "" (fun _ => none) mirroredSketch = .ok scene ∧
      renderScene .content .default scene = .ok markup ∧
      ∃ used, markup.css =
          contentCss scene (.ofScene .content .default scene.nodes) used ∧
        List.Forall₂ (Draws fun box _ head => ∃ declared,
          DeclaresInAll (.ofScene .content .default scene.nodes)
            (classRules (.ofScene .content .default scene.nodes) used) box head declared ∧
          OriginFollows box declared) scene.nodes markup.elements := by
  obtain ⟨scene, compiled, drawn⟩ := Except.exists_of_any
    (fun scene => (renderScene .content .default scene).toOption.any fun _ => true)
    (show (compileComposition "" (fun _ => none) mirroredSketch).toOption.any _ = true by
      decide +kernel)
  obtain ⟨markup, rendered, -⟩ := Except.exists_of_any _ drawn
  exact ⟨scene, markup, compiled, rendered, origins_follow_turns_and_scales compiled rendered⟩

/-- The reflected shape is drawn about its centre in both modes: its style, which is all that is
declared for it, has the transform and no origin. -/
theorem mirroredSketch_loses_origin :
    ∃ scene, compileComposition "" (fun _ => none) mirroredSketch = .ok scene ∧
      scene.nodes.length = 1 ∧ allTransformed scene = true ∧
      ∀ mode, bareStyles mode scene = some [some mirroredStyle] := by
  obtain ⟨scene, compiled, holds⟩ := Except.exists_of_any
    (fun scene : CompiledScene Rat => decide (scene.nodes.length = 1) && allTransformed scene &&
      [Mode.content, .overlay].all fun mode =>
        decide (bareStyles mode scene = some [some mirroredStyle]))
    (show (compileComposition "" (fun _ => none) mirroredSketch).toOption.any _ = true by
      decide +kernel)
  simp only [Bool.and_eq_true, decide_eq_true_eq, List.all_eq_true] at holds
  obtain ⟨⟨one, transformed⟩, styles⟩ := holds
  refine ⟨scene, compiled, one, transformed, fun mode => styles mode ?_⟩
  cases mode <;> decide

end Artboard.Render
