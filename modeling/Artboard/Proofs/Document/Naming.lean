import Artboard.Proofs.Classes.Token
import Artboard.Proofs.Document.Assembly

/-!
# Names and the stylesheet

The names of nodes share their classes with the stylesheet of the document. A class
that is made from a name meets a rule only by way of a reserved word: a class of the
shell, a utility class of some box without a length, or a shared class. Renaming
nodes changes these classes and nothing else.
-/
namespace Artboard.Document

open Classes Markup Render

variable {α : Type}

/-! ### Rules of a document -/

/-- The classes that a selector asks for. -/
def selectorClasses (selector : String) : List String :=
  (selector.toList.splitOn '.').tail.map fun rest => String.ofList (rest.takeWhile isClassChar)

def baseClasses : List String :=
  baseRules.flatMap fun rule => rule.selectors.flatMap selectorClasses

section Sheet

variable [Scalar α]

def shellRules (viewport : Viewport) (canvas : Option (Rect α)) : List ClassRule :=
  [⟨"viewport", ".viewport", .ofList [("width", Css.px (integerPx viewport.width)),
      ("height", Css.px (integerPx viewport.height))]⟩,
   ⟨"view-offset", ".view-offset", .ofList [("left", Css.px (integerPx viewport.offsetX)),
      ("top", Css.px (integerPx viewport.offsetY))]⟩] ++
    match canvas with
    | some canvas =>
      [⟨"composition", ".composition", .ofList [("width", Css.px canvas.width),
        ("height", Css.px canvas.height)]⟩]
    | none => []

theorem shellCss_eq (viewport : Viewport) (canvas : Option (Rect α)) :
    shellCss viewport canvas =
      String.intercalate "\n" ((shellRules viewport canvas).map ClassRule.text) := by
  cases canvas <;> rfl

/-- The stylesheet of a document with these rules of classes. -/
def contentSheet (viewport : Viewport) (scene : CompiledScene α) (rules : List ClassRule) :
    String :=
  joinSheets
    [sheetText baseRules,
     String.intercalate "\n" ((shellRules viewport scene.bounds).map ClassRule.text),
     String.intercalate "\n" (scene.rules.texts ++ rules.map ClassRule.text)]

/-- The classes that the stylesheet has rules for. The rules of pseudo-elements are not for
classes. -/
def ruledClasses (viewport : Viewport) (scene : CompiledScene α) (rules : List ClassRule) :
    List String :=
  baseClasses ++ (shellRules viewport scene.bounds ++ rules).map (·.name)

theorem css_of_assemble {settings : Settings} {title : String} {scene : CompiledScene α}
    {document : RenderedDocument} (assembled : assemble settings title scene = .ok document)
    {markup : RenderedMarkup} (rendered : renderScene .content settings scene = .ok markup)
    {rules : List ClassRule}
    (written : markup.css =
      String.intercalate "\n" (scene.rules.texts ++ rules.map ClassRule.text)) :
    document.html = shellHtml false markup.elements ∧
      document.css = contentSheet document.viewport scene rules := by
  obtain ⟨-, _, viewport, content, _, _, -, -, again, -, -, rfl⟩ := assemble_eq_ok_iff.mp assembled
  obtain rfl := Except.ok.inj (again.symm.trans rendered)
  refine ⟨rfl, ?_⟩
  rw [documentOf, contentSheet, ← shellCss_eq, written, baseSheet]

end Sheet

/-! ### Reserved words -/

/-- The classes of the shell and of boxes that a name can make. -/
def shellClasses : List String :=
  ["viewport", "view-offset", "composition", "content-layer", "shape", "svg-container",
   "mask-container", "has-wrapper"]

section Reserved

variable [Scalar α]

/-- The words that make classes with rules: those of the shell, utility classes without a length
that some box needs, and shared classes. -/
inductive Reserved (tables : Tables) (nodes : List (SceneNode α)) (name : String) : Prop
  | shell : name ∈ shellClasses → Reserved tables nodes name
  | utility {box} : name ∈ simpleUtilities.map Prod.snd → box ∈ SceneNode.preorders nodes →
      NeedsRule tables box name → Reserved tables nodes name
  | shared {shared} : shared ∈ tables.shared.classes → shared.name = name →
      Reserved tables nodes name

omit [Scalar α] in
private theorem plain_kindClasses (box : SceneBox α) :
    ∀ c ∈ ((kindClasses box).headD "").toList, isClassChar c = true := by
  have plain : ∀ name ∈ ["frame", "text", "svg-container", "shape"],
      name.toList.all isClassChar = true := by decide +kernel
  refine List.all_eq_true.mp (plain _ ?_)
  rw [kindClasses]
  cases box.kind with
  | frame => cases box.isMask <;> simp
  | text => simp
  | svg => simp
  | shape => simp

omit [Scalar α] in
private theorem mem_semanticClass_iff {box : SceneBox α} {name : String} :
    name ∈ semanticClass box ↔
      name = semantic box.name ((kindClasses box).headD "") ∧
        name ≠ (kindClasses box).headD "" := by
  rw [semanticClass]
  split
  next same =>
    rw [same]
    exact ⟨fun member => absurd member List.not_mem_nil, fun both => absurd both.1 both.2⟩
  next other =>
    rw [List.mem_singleton]
    exact ⟨fun same => ⟨same, same ▸ other⟩, And.left⟩

/-- A class that is made from a name and has a rule is a reserved word. -/
theorem reserved_of_ruled {tables : Tables} {used : UtilitySet} {scene : CompiledScene α}
    (needed : ∀ name ∈ used.names, ∃ box ∈ SceneNode.preorders scene.nodes,
      NeedsRule tables box name)
    {box : SceneBox α} {name : String} (derived : name ∈ semanticClass box) {viewport : Viewport}
    (ruled : name ∈ ruledClasses viewport scene (classRules tables used)) :
    Reserved tables scene.nodes name := by
  obtain ⟨made, other⟩ := mem_semanticClass_iff.mp derived
  have base : ∀ name ∈ baseClasses, name ∈ shellClasses ∨ name ∈ genericNames := by
    decide +kernel
  have shell : ∀ rule ∈ shellRules viewport scene.bounds, rule.name ∈ shellClasses := by
    cases scene.bounds <;> simp [shellRules, shellClasses]
  rw [ruledClasses, List.map_append, classRules, List.map_append] at ruled
  -- The rules come in four parts: the fixed ones, the measures, the utilities and the shared ones.
  rcases List.mem_append.mp ruled with fixed | ruled
  · rcases base _ fixed with shell | generic
    · exact .shell shell
    -- The fixed rules for frames and texts are out of reach, as both are generic names.
    · rw [made] at generic other
      exact absurd (semantic_eq_of_saysNothing ⟨_, generic, .inl rfl⟩) other
  rcases List.mem_append.mp ruled with measured | ruled
  · obtain ⟨rule, member, rfl⟩ := List.mem_map.mp measured
    exact .shell (shell rule member)
  rcases List.mem_append.mp ruled with utility | shared
  · obtain ⟨rule, member, rfl⟩ := List.mem_map.mp utility
    obtain ⟨found, inUse, given⟩ := List.mem_filterMap.mp member
    obtain ⟨declaration, known, rfl⟩ := Option.map_eq_some_iff.mp given
    obtain ⟨user, inside, needs⟩ := needed _ (UtilitySet.mem_ordered.mp inUse)
    refine .utility ?_ inside needs
    -- A class with a length has a bracket in it, which no name leaves standing.
    dsimp only at made ⊢
    rw [made] at known ⊢
    exact mem_simple_of_semantic (plain_kindClasses box) known
  · obtain ⟨rule, member, rfl⟩ := List.mem_map.mp shared
    obtain ⟨shared, counted, rfl⟩ := List.mem_map.mp member
    exact .shared counted rfl

/-! ### Names of nodes -/

variable {settings : Settings} {scene : CompiledScene α} {markup : RenderedMarkup}

/-- The stylesheet of the content and that of a document are made of the rules of the classes in
use, and at every element a class that is made from a name has a rule only if it is a reserved
word. -/
def NamesMeetReserved (settings : Settings) (scene : CompiledScene α) (markup : RenderedMarkup) :
    Prop :=
  ∃ used : UtilitySet,
    markup.css = String.intercalate "\n" (scene.rules.texts ++
      (classRules (.ofScene .content settings scene.nodes) used).map ClassRule.text) ∧
    (∀ title document, assemble settings title scene = .ok document →
      document.html = shellHtml false markup.elements ∧ document.css = contentSheet
        document.viewport scene (classRules (.ofScene .content settings scene.nodes) used)) ∧
    List.Forall₂ (Draws fun box _ head => ∃ found,
      CarriesExtraction (.ofScene .content settings scene.nodes) box head found ∧
      ∀ viewport, ∀ name ∈ semanticClass box,
        name ∈ ruledClasses viewport scene
          (classRules (.ofScene .content settings scene.nodes) used) →
        Reserved (.ofScene .content settings scene.nodes) scene.nodes name)
      scene.nodes markup.elements

/-- Whatever names its nodes are given, the composition is drawn with the same rules, and element by
element the drawing differs only in the classes that are made from names. Apart from elements its
document is the same. -/
def RenamingKeepsDrawing (template : String) (provider : FontProvider) (settings : Settings)
    (composition : Composition α) (scene : CompiledScene α) (markup : RenderedMarkup) : Prop :=
  ∀ other : Composition α, other.unnamed = composition.unnamed →
    ∃ again twin drawn redrawn,
      compileComposition template provider other = .ok again ∧ again.unnamed = scene.unnamed ∧
      renderScene .content settings again = .ok twin ∧ twin.css = markup.css ∧
      drawn.map Prod.fst = scene.nodes ∧ drawn.map Prod.snd = markup.elements ∧
      redrawn.map Prod.fst = again.nodes ∧ redrawn.map Prod.snd = twin.elements ∧
      List.Forall₂ (Renamed (.ofScene .content settings scene.nodes)) drawn redrawn ∧
      ∀ title document, assemble settings title scene = .ok document →
        ∃ redone, assemble settings title again = .ok redone ∧ document =
          { redone with html := document.html, overlayHtml := document.overlayHtml }

private theorem namesMeetReserved_of_rendered
    (rendered : renderScene .content settings scene = .ok markup) :
    NamesMeetReserved settings scene markup := by
  obtain ⟨used, drawn, written⟩ := renderScene_cases rendered
  have written := written.trans (contentCss_eq scene rfl)
  -- Nothing was in use before the scene was drawn, so some box needs each class in use.
  have needed : ∀ name ∈ used.names, ∃ box ∈ SceneNode.preorders scene.nodes,
      NeedsRule (.ofScene .content settings scene.nodes) box name := fun name member =>
    (drawn.needed name member).resolve_left List.not_mem_nil
  refine ⟨used, written, fun title document assembled =>
    css_of_assemble assembled rendered written, ?_⟩
  refine forall₂_imp_of_mem drawn.draws fun node member element draws => ?_
  refine draws.mono node element fun box inside outer head styled => ?_
  obtain ⟨found, _, carries, -⟩ := styled.content rfl
  exact ⟨found, carries, fun viewport name derived => reserved_of_ruled needed derived⟩

/-- The names of nodes meet the rules of the stylesheet only in reserved words, and renaming nodes
changes nothing but the classes that are made from their names. -/
theorem names_meet_only_reserved_words {template : String} {provider : FontProvider}
    {composition : Composition α}
    (compiled : compileComposition template provider composition = .ok scene)
    (rendered : renderScene .content settings scene = .ok markup) :
    NamesMeetReserved settings scene markup ∧
      RenamingKeepsDrawing template provider settings composition scene markup := by
  refine ⟨namesMeetReserved_of_rendered rendered, fun other same => ?_⟩
  obtain ⟨again, recompiled, alike⟩ := exists_compiled_of_unnamed_eq same compiled
  obtain ⟨twin, drawn, redrawn, redraws, css, first, second, third, fourth, related⟩ :=
    renamed_of_renderScene alike rendered
  exact ⟨again, twin, drawn, redrawn, recompiled, alike, redraws, css, first, second, third, fourth,
    related, fun title document => assemble_of_unnamed_eq alike⟩

end Reserved

/-- The faded row under other names. -/
def namedRow : Composition Rat where
  name := "row"
  absOrigin := some ⟨0, 0⟩
  bounds := none
  children :=
    [.mk { plainProps "row" "FRAME" ⟨1, 0, 0, 1, 0, 0⟩ with
           name := "sc-e1549fdc", layoutMode := .horizontal, itemSpacing := 4 }
      [.mk { (fadedNode "first" ⟨1, 0, 0, 1, 0, 0⟩).props with name := "Flex" } [],
       fadedNode "turned" ⟨0, 1, -1, 0, 30, 0⟩,
       .mk { (fadedNode "last" ⟨1, 0, 0, 1, 28, 0⟩).props with name := "Viewport" } []]]

theorem namedRow_meets_reserved_words :
    fadedRow.unnamed = namedRow.unnamed ∧
    ∃ scene markup, compileComposition "" (fun _ => none) namedRow = .ok scene ∧
      renderScene .content .default scene = .ok markup ∧
      NamesMeetReserved .default scene markup ∧
      RenamingKeepsDrawing "" (fun _ => none) .default namedRow scene markup := by
  obtain ⟨scene, compiled, drawn⟩ := Except.exists_of_any
    (fun scene => (renderScene .content .default scene).toOption.any fun _ => true)
    (show (compileComposition "" (fun _ => none) namedRow).toOption.any _ = true by
      decide +kernel)
  obtain ⟨markup, rendered, -⟩ := Except.exists_of_any _ drawn
  exact ⟨rfl, scene, markup, compiled, rendered,
    names_meet_only_reserved_words compiled rendered⟩

/-- At no element a class that is made from a name has a rule, unless a pass has attached it. -/
def NamesCaptureNothing [Scalar α] (settings : Settings) (scene : CompiledScene α)
    (markup : RenderedMarkup) : Prop :=
  ∃ used : UtilitySet,
    markup.css = String.intercalate "\n" (scene.rules.texts ++
      (classRules (.ofScene .content settings scene.nodes) used).map ClassRule.text) ∧
    List.Forall₂ (Draws fun box _ head => ∃ found,
      CarriesExtraction (.ofScene .content settings scene.nodes) box head found ∧
      ∀ viewport, ∀ name ∈ semanticClass box,
        name ∈ ruledClasses viewport scene
          (classRules (.ofScene .content settings scene.nodes) used) →
        name ∈ found.classes)
      scene.nodes markup.elements

/-- Names can make classes of all three kinds that have rules: here the shared class of the faded
nodes, a utility class of the row and a class of the shell. -/
theorem namedRow_captures :
    ∃ scene markup, compileComposition "" (fun _ => none) namedRow = .ok scene ∧
      renderScene .content .default scene = .ok markup ∧
      (SceneNode.preorders scene.nodes).map semanticClass =
        [["sc-e1549fdc"], ["flex"], ["turned"], ["viewport"]] ∧
      attachedClasses .default scene = fadedRowClasses ∧
      ¬ NamesCaptureNothing .default scene markup := by
  obtain ⟨scene, compiled, holds⟩ := Except.exists_of_any
    (fun scene : CompiledScene Rat => decide ((SceneNode.preorders scene.nodes).map semanticClass =
        [["sc-e1549fdc"], ["flex"], ["turned"], ["viewport"]]) &&
      decide (attachedClasses .default scene = fadedRowClasses) &&
      ((SceneNode.preorders scene.nodes).any fun box => decide ("viewport" ∈ semanticClass box) &&
        (Extraction.ofBox (.ofScene .content .default scene.nodes) box).toOption.all
          fun found : Extraction => decide ("viewport" ∉ found.classes)) &&
      (renderScene .content .default scene).toOption.any fun _ => true)
    (show (compileComposition "" (fun _ => none) namedRow).toOption.any _ = true by
      decide +kernel)
  simp only [Bool.and_eq_true, decide_eq_true_eq, List.any_eq_true] at holds
  obtain ⟨⟨⟨derived, attached⟩, box, inside, named, apart⟩, drawn⟩ := holds
  obtain ⟨markup, rendered, -⟩ := Except.exists_of_any _ drawn
  refine ⟨scene, markup, compiled, rendered, derived, attached, ?_⟩
  rintro ⟨used, -, drawn⟩
  obtain ⟨outer, head, found, carries, claimed⟩ := exists_heads drawn inside
  -- The shell has its rule whatever classes are in use.
  have ruled : "viewport" ∈ baseClasses := by decide +kernel
  rw [carries.extracted] at apart
  have missing : "viewport" ∉ found.classes := by simpa [Except.toOption] using apart
  exact missing (claimed ⟨0, 0, 0, 0⟩ _ named (List.mem_append_left _ ruled))

end Artboard.Document
