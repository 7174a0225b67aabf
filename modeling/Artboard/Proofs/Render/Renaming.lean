import Artboard.Proofs.Render.Extraction
import Artboard.Proofs.Scene.Renaming

/-!
# Drawings of renamed scenes

The content shows the name of a box only as one of its classes. Scenes that differ
in names alone are drawn with the same tables and the same rules, and element by
element their drawings differ only in these classes.
-/
namespace Artboard.Render

open Css.Declarations Classes Markup Rendering

variable {α : Type}

variable [Scalar α]

/-! ### What names do not change -/

theorem Tables.ofScene_unnamedAll (mode : Mode) (settings : Settings)
    (nodes : List (SceneNode α)) :
    Tables.ofScene mode settings (SceneNode.unnamedAll nodes) =
      Tables.ofScene mode settings nodes := by
  have single : isSingle ∘ SceneBox.unnamed = isSingle (α := α) := rfl
  have drawn : (fun box : SceneBox α => box.kind != .svg) ∘ SceneBox.unnamed =
      fun box => box.kind != .svg := rfl
  have layout : SceneBox.layout ∘ SceneBox.unnamed = SceneBox.layout (α := α) := rfl
  have css : SceneBox.declarations ∘ SceneBox.unnamed = SceneBox.declarations (α := α) := rfl
  simp only [Tables.ofScene, SceneNode.preorders_unnamedAll, List.filter_map, List.map_map,
    single, drawn, layout, css]

/-- The attributes of the element that carries a box, after its classes. -/
def ownAttributes (box : SceneBox α) (found : Extraction) : List (String × String) :=
  (if box.hasStroke then [("data-layer-id", box.id)] else []) ++ styleAttribute found.inline

/-- The head of the element that carries a box, with these classes between those of its kind and
those of the passes. -/
def carrierHead (box : SceneBox α) (found : Extraction) (text : List Char) (names : List String) :
    Head :=
  plainHead (("class", classAttribute (kindClasses box ++ names ++ found.classes)) ::
    ownAttributes box found) text

omit [Scalar α] in
theorem boxElement_content {tables : Tables} (content : tables.mode = .content)
    (box : SceneBox α) (found : Extraction) (fragment : Fragment) (below : List Element) :
    boxElement tables box (found.styling box) fragment below =
      .mk (carrierHead box found fragment.text (semanticClass box))
        (fragment.elements ++ below) := by
  have attributes : boxAttributes .content box (fileAttribute .content box) (found.styling box) =
      ("class", classAttribute (kindClasses box ++ semanticClass box ++ found.classes)) ::
        ownAttributes box found := by
    have file : fileAttribute .content box = [] := rfl
    rw [file, boxAttributes, ownAttributes]
    cases box.hasStroke <;> rfl
  rw [boxElement, content, attributes]
  rfl

section Box

variable (tables : Tables) (box : SceneBox α)

theorem ofBox_unnamed : Extraction.ofBox tables box.unnamed = Extraction.ofBox tables box := rfl

theorem outerDeclarations_unnamed : outerDeclarations box.unnamed = outerDeclarations box := rfl

omit [Scalar α] in
theorem ownContent_unnamed : ownContent tables box.unnamed = ownContent tables box := rfl

omit [Scalar α] in
theorem wrapperAttributes_unnamed (outer : Css.Declarations) :
    wrapperAttributes .content box.unnamed outer = wrapperAttributes .content box outer := rfl

omit [Scalar α] in
theorem carrierHead_unnamed (found : Extraction) (text : List Char) (names : List String) :
    carrierHead box.unnamed found text names = carrierHead box found text names := rfl

end Box

/-! ### Renamed drawings -/

/-- The two nodes are alike but for names, and so are the elements that draw them: around the same
payload, the heads of a box differ in the classes that its two names make. -/
inductive Renamed (tables : Tables) : SceneNode α × Element → SceneNode α × Element → Prop
  | single {box other found text payload below beneath} :
      other.unnamed = box.unnamed → box.layout.wrapper = none →
      Extraction.ofBox tables box = .ok found → List.Forall₂ (Renamed tables) below beneath →
      Renamed tables
        (.mk box (below.map Prod.fst),
          .mk (carrierHead box found text (semanticClass box)) (payload ++ below.map Prod.snd))
        (.mk other (beneath.map Prod.fst),
          .mk (carrierHead box found text (semanticClass other)) (payload ++ beneath.map Prod.snd))
  | wrapped {box other found text payload below beneath outer wrapper} :
      other.unnamed = box.unnamed → box.layout.wrapper = some wrapper →
      Extraction.ofBox tables box = .ok found → List.Forall₂ (Renamed tables) below beneath →
      Renamed tables
        (.mk box (below.map Prod.fst),
          .mk outer [.mk (carrierHead box found text (semanticClass box))
            (payload ++ below.map Prod.snd)])
        (.mk other (beneath.map Prod.fst),
          .mk outer [.mk (carrierHead box found text (semanticClass other))
            (payload ++ beneath.map Prod.snd)])

/-- Drawings of the first nodes, with the classes in use before and after, have renamed drawings
of the others with the same classes in use. -/
def Redraws (tables : Tables) (nodes others : List (SceneNode α)) : Prop :=
  ∀ {before after : UtilitySet} {elements : List Element},
    Ends (renderNodes tables nodes) before elements after →
      ∃ drawn redrawn, drawn.map Prod.fst = nodes ∧ drawn.map Prod.snd = elements ∧
        redrawn.map Prod.fst = others ∧
        Ends (renderNodes tables others) before (redrawn.map Prod.snd) after ∧
        List.Forall₂ (Renamed tables) drawn redrawn

private theorem redraws_of_each {tables : Tables} {nodes others : List (SceneNode α)}
    (each : ∀ node ∈ nodes, ∀ other : SceneNode α, other.unnamed = node.unnamed →
      ∀ {before after element}, Ends (renderNode tables node) before element after →
        ∃ twin, Ends (renderNode tables other) before twin after ∧
          Renamed tables (node, element) (other, twin))
    (same : SceneNode.unnamedAll others = SceneNode.unnamedAll nodes) :
    Redraws tables nodes others := by
  induction nodes generalizing others with
  | nil =>
    intro before after elements ended
    obtain ⟨rfl, rfl⟩ := renderNodes_nil_ends_iff.mp ended
    cases others with
    | nil => exact ⟨[], [], rfl, rfl, rfl, ended, .nil⟩
    | cons other more => cases same
  | cons node rest ih =>
    intro before after elements ended
    cases others with
    | nil => cases same
    | cons other more =>
      obtain ⟨first, remaining, between, drawn, later, rfl⟩ := renderNodes_cons_ends_iff.mp ended
      obtain ⟨alike, same⟩ := List.cons.inj same
      obtain ⟨here, each⟩ := List.forall_mem_cons.mp each
      obtain ⟨twin, again, renamed⟩ := here other alike drawn
      obtain ⟨drawn, redrawn, rfl, rfl, rfl, others, related⟩ := ih each same later
      exact ⟨(node, first) :: drawn, (other, twin) :: redrawn, rfl, rfl, rfl,
        renderNodes_cons_ends_iff.mpr ⟨twin, _, between, again, others, rfl⟩,
        .cons renamed related⟩

private theorem renamed_of_renderNode {tables : Tables} (content : tables.mode = .content)
    (node : SceneNode α) :
    ∀ other : SceneNode α, other.unnamed = node.unnamed → ∀ {before after element},
      Ends (renderNode tables node) before element after →
        ∃ twin, Ends (renderNode tables other) before twin after ∧
          Renamed tables (node, element) (other, twin) := by
  induction node using SceneNode.memInduction with
  | step box children ih =>
    intro other same before after element ended
    obtain ⟨twin, others⟩ := other
    obtain ⟨alike, same⟩ := SceneNode.unnamed_inj same
    obtain ⟨styling, outer, fragment, below, boxed, filled, drawn, rfl⟩ :=
      renderNode_ends_iff.mp ended
    obtain ⟨found, _, extracted, surrounded, styled⟩ := (boxStyling_content_iff content).mp boxed
    obtain ⟨rfl, rfl⟩ := Prod.mk.inj styled
    obtain ⟨drawn, redrawn, rfl, rfl, rfl, again, related⟩ := redraws_of_each ih same drawn
    -- Nothing that is computed for a box reads its name.
    have extracted' : Extraction.ofBox tables twin = .ok found := by
      rw [← ofBox_unnamed, alike, ofBox_unnamed, extracted]
    have styled : boxStyling tables twin = .ok (found.styling twin, outer) := by
      rw [← outerDeclarations_unnamed, ← alike, outerDeclarations_unnamed] at surrounded
      exact (boxStyling_content_iff content).mpr ⟨found, outer, extracted', surrounded, rfl⟩
    have filled' : ownContent tables twin = .ok fragment := by
      rw [← ownContent_unnamed, alike, ownContent_unnamed, filled]
    have head : carrierHead twin found fragment.text = carrierHead box found fragment.text := by
      funext names
      rw [← carrierHead_unnamed, alike, carrierHead_unnamed]
    refine ⟨_, renderNode_ends_iff.mpr ⟨_, _, _, _, styled, filled', again, rfl⟩, ?_⟩
    simp only [nodeElement, boxElement_content content, head, content]
    have wrapper := boxStyling_wrapper boxed
    cases outer with
    | none =>
      exact .single alike (Option.not_isSome_iff_eq_none.mp (by simp [← wrapper])) extracted related
    | some outer =>
      obtain ⟨around, wrapped⟩ := Option.isSome_iff_exists.mp wrapper.symm
      have attributes : wrapperAttributes .content twin outer =
          wrapperAttributes .content box outer := by
        rw [← wrapperAttributes_unnamed, alike, wrapperAttributes_unnamed]
      dsimp only
      rw [attributes]
      exact .wrapped alike wrapped extracted related

/-- A scene with other names is drawn like the scene, with the same rules. -/
theorem renamed_of_renderScene {settings : Settings} {scene other : CompiledScene α}
    (same : other.unnamed = scene.unnamed) {markup : RenderedMarkup}
    (rendered : renderScene .content settings scene = .ok markup) :
    ∃ twin drawn redrawn, renderScene .content settings other = .ok twin ∧ twin.css = markup.css ∧
      drawn.map Prod.fst = scene.nodes ∧ drawn.map Prod.snd = markup.elements ∧
      redrawn.map Prod.fst = other.nodes ∧ redrawn.map Prod.snd = twin.elements ∧
      List.Forall₂ (Renamed (.ofScene .content settings scene.nodes)) drawn redrawn := by
  obtain ⟨⟨elements, used⟩, ended, rendered⟩ := Except.bind_eq_ok_iff.mp rendered
  cases rendered
  have nodes : SceneNode.unnamedAll other.nodes = SceneNode.unnamedAll scene.nodes :=
    congrArg CompiledScene.nodes same
  have rules : other.rules = scene.rules := congrArg (·.rules) same
  have tables : Tables.ofScene .content settings other.nodes =
      Tables.ofScene .content settings scene.nodes := by
    rw [← Tables.ofScene_unnamedAll, nodes, Tables.ofScene_unnamedAll]
  obtain ⟨drawn, redrawn, first, second, third, again, related⟩ :=
    redraws_of_each (fun node _ => renamed_of_renderNode rfl node) nodes ended
  rw [← tables] at again
  refine ⟨_, drawn, redrawn, Except.bind_eq_ok_iff.mpr ⟨_, again, rfl⟩, ?_, first, second, third,
    rfl, related⟩
  rw [contentCss, contentCss, rules, tables]

end Artboard.Render
