import Artboard.Proofs.Document.Assembly
import Artboard.Proofs.Scene.Hidden

/-!
# Documents without a hidden node

The document of a composition is drawn from what is visible, but the viewport,
the fonts and the conditions on the input are found by looking at every node.
Without a hidden node that none of these notices the outcome is the same.
-/
namespace Artboard

variable {α : Type}

/-- The fault without the number of the top-level node, which the nodes before it determine. -/
def Fault.unnumbered : Fault → Fault
  | .violation (.missingTopLevelBounds _ node) => .violation (.missingTopLevelBounds 0 node)
  | fault => fault

/-! ### What looks at every node -/

private theorem boundsFrom_congr {nodes others : List (Node α)}
    (same : others.map Node.props = nodes.map Node.props) :
    ∀ index, boundsFrom index others = boundsFrom index nodes := by
  induction nodes generalizing others with
  | nil =>
    obtain rfl := List.map_eq_nil_iff.mp same
    exact fun _ => rfl
  | cons node rest ih =>
    obtain ⟨first, remaining, rfl, props, below⟩ := List.map_eq_cons_iff.mp same
    intro index
    rw [boundsFrom, boundsFrom, props, ih below]

variable [Scalar α]

theorem renderUnion_congr {nodes others : List (Node α)}
    (same : others.map Node.props = nodes.map Node.props) :
    renderUnion others = renderUnion nodes := by
  rw [renderUnion, renderUnion, boundsFrom_congr same]

/-- Nothing that looks at hidden nodes as well goes by the node. It does not keep the composition
from being blank, nor a frame that is singular from having no children. At the top it has bounds,
which add nothing to the union of those of the other nodes. It brings no font. -/
structure Unnoticed (composition : Composition α) (hidden : Node α) (children : List (Node α)) :
    Prop where
  origin : children = [] → ∃ origin, composition.absOrigin = some origin
  frames : ∀ container ∈ Node.preorders composition.children, container.children = [hidden] →
    ¬ container.props.Singular
  bounds : hidden ∈ composition.children → hidden.props.renderBounds.isSome
  union : hidden ∈ composition.children → (∃ node ∈ children, node.props.visible = true) →
    ∀ union, renderUnion composition.children = .ok union → renderUnion children = .ok union
  fonts : (∃ node ∈ children, node.props.visible = true) →
    fontsOf { composition with children } = fontsOf composition

section Composed

variable {composition : Composition α} {hidden : Node α} {children : List (Node α)}

/-- The union fails as it did, and where it does not fail it is the same if something is visible. -/
theorem Unnoticed.renderUnion_cases (unnoticed : Unnoticed composition hidden children)
    (deletes : Deletes hidden composition.children children) :
    (∃ union rest, renderUnion composition.children = .ok union ∧
      renderUnion children = .ok rest ∧
      ((∃ node ∈ children, node.props.visible = true) → rest = union)) ∨
    ∃ fault cause, renderUnion composition.children = .error fault ∧
      renderUnion children = .error cause ∧ cause.unnumbered = fault.unnumbered := by
  rcases deletes.props_cases with same | ⟨top, before, after, whole, left⟩
  · rw [renderUnion_congr same]
    cases renderUnion composition.children with
    | ok union => exact .inl ⟨union, union, rfl, rfl, fun _ => rfl⟩
    | error fault => exact .inr ⟨fault, fault, rfl, rfl, rfl⟩
  · -- The first node without bounds is another one, and so it is the same in both lists.
    have first : (children.map Node.props).find? (·.renderBounds.isNone) =
        (composition.children.map Node.props).find? (·.renderBounds.isNone) := by
      have bounded : hidden.props.renderBounds.isNone = false := by
        simpa [← Option.isSome_iff_ne_none] using unnoticed.bounds top
      simp only [whole, left, List.find?_append, List.find?_cons, bounded]
    rcases Artboard.renderUnion_cases composition.children with
      ⟨all, union, joined⟩ | ⟨props, position, found, failed⟩
    · rcases Artboard.renderUnion_cases children with ⟨-, rest, again⟩ | ⟨_, _, other, -⟩
      · refine .inl ⟨union, rest, joined, again, fun shown => ?_⟩
        exact Except.ok.inj (again.symm.trans (unnoticed.union top shown union joined))
      · rw [first, all] at other
        cases other
    · rcases Artboard.renderUnion_cases children with ⟨all, -⟩ | ⟨other, index, second, again⟩
      · rw [first, found] at all
        cases all
      · obtain rfl : other = props := by simpa [first, found] using second.symm
        exact .inr ⟨_, _, failed, again, rfl⟩

/-- Without anything visible at the top there are no boxes. -/
theorem nodes_of_compileTopLevel {template : String} {origin : Point α} {nodes : List (Node α)}
    {before after : PseudoRules} {drawn : List (SceneNode α)}
    (run : Compile.Runs (compileTopLevel template origin nodes) before drawn after)
    (inhabited : drawn.isEmpty = false) : ∃ node ∈ nodes, node.props.visible = true := by
  by_contra none
  have blank : nodes.filter (·.props.visible) = [] := by
    rw [List.filter_eq_nil_iff]
    exact fun node member shown => none ⟨node, member, shown⟩
  rw [compileTopLevel, blank] at run
  obtain ⟨rfl, -⟩ := Compile.runs_pure_iff.mp run
  cases inhabited

end Composed

namespace Document

open Render

variable {settings : Settings} {provider : FontProvider} {composition : Composition α}
  {hidden : Node α} {children : List (Node α)}

/-- A document is assembled from what is drawn of its scene, from its union and from its links. -/
theorem assemble_congr {title : String} {scene other : CompiledScene α}
    (nodes : other.nodes = scene.nodes) (rules : other.rules = scene.rules)
    (bounds : other.bounds = scene.bounds) (union : other.union = scene.union)
    (fontUrl : other.fontUrl = scene.fontUrl) (provided : other.providedUrls = scene.providedUrls) :
    assemble settings title other = assemble settings title scene := by
  simp only [assemble, renderScene_congr nodes rules, nodes, bounds, union, fontUrl, provided]

theorem assemble_of_blank {title : String} {scene : CompiledScene α} (blank : scene.nodes = []) :
    assemble settings title scene = .error (.violation .nothingVisible) := by
  simp only [assemble, blank]
  rfl

theorem render_of_error {fault : Fault}
    (failed : compileComposition settings.imageUrlTemplate provider composition = .error fault) :
    render settings provider composition = .error fault := by
  rw [render, failed]
  rfl

theorem render_of_blank {scene : CompiledScene α}
    (compiled : compileComposition settings.imageUrlTemplate provider composition = .ok scene)
    (blank : scene.nodes = []) :
    render settings provider composition = .error (.violation .nothingVisible) := by
  rw [render, compiled]
  exact assemble_of_blank blank

/-- Where both compositions are inhabited and their top-level nodes are compiled alike, they have
the same outcome. -/
private theorem outcome_of_inhabited {origin : Point α}
    (deletes : Deletes hidden composition.children children)
    (unnoticed : Unnoticed composition hidden children)
    (known : composition.absOrigin = some origin) (left : children ≠ [])
    (agree : (compileTopLevel settings.imageUrlTemplate origin children).outcome .empty =
      (compileTopLevel settings.imageUrlTemplate origin composition.children).outcome .empty) :
    (render settings provider { composition with children }).mapError Fault.unnumbered =
      (render settings provider composition).mapError Fault.unnumbered := by
  have first := compileComposition_of_inhabited settings.imageUrlTemplate provider composition
    deletes.ne_nil known
  have second := compileComposition_of_inhabited settings.imageUrlTemplate provider
    { composition with children } left known
  simp only [agree] at second
  cases ended : (compileTopLevel settings.imageUrlTemplate origin
      composition.children).outcome .empty with
  | mk result rules =>
    rw [ended] at first second agree
    cases result with
    | error fault => rw [render_of_error first, render_of_error second]
    | ok nodes =>
      rcases unnoticed.renderUnion_cases deletes with
        ⟨union, rest, joined, again, same⟩ | ⟨fault, cause, failed, again, same⟩
      · -- Both compile, and the scenes differ at most in what an empty scene does not use.
        rw [joined] at first
        rw [again] at second
        cases drawn : nodes.isEmpty with
        | true =>
          have blank := List.isEmpty_iff.mp drawn
          rw [render_of_blank first blank, render_of_blank second blank]
        | false =>
          have shown := nodes_of_compileTopLevel agree drawn
          have fonts := unnoticed.fonts shown
          obtain rfl := same shown
          rw [render, render, first, second]
          refine congrArg (Except.mapError Fault.unnumbered) (assemble_congr rfl rfl rfl rfl ?_ ?_)
          · exact congrArg fontServiceUrl fonts
          · exact congrArg (providedUrls provider) fonts
      · rw [failed] at first
        rw [again] at second
        rw [render_of_error first, render_of_error second]
        exact congrArg Except.error same

/-- A composition that asks for an origin fails without one. -/
private theorem render_of_missing (inhabited : composition.children ≠ [])
    (missing : composition.absOrigin = none) :
    render settings provider composition = .error (.violation .missingOrigin) := by
  have blank : composition.children.isEmpty = false := by simpa using inhabited
  apply render_of_error
  simp only [compileComposition, blank, missing]
  rfl

/-- A composition of nothing but a hidden node with bounds has an empty scene. -/
private theorem render_of_emptied {origin : Point α}
    (deletes : Deletes hidden composition.children children)
    (unnoticed : Unnoticed composition hidden children)
    (known : composition.absOrigin = some origin) (left : children = [])
    (agree : (compileTopLevel settings.imageUrlTemplate origin children).outcome .empty =
      (compileTopLevel settings.imageUrlTemplate origin composition.children).outcome .empty) :
    render settings provider composition = .error (.violation .nothingVisible) := by
  subst left
  rcases unnoticed.renderUnion_cases deletes with ⟨union, _, joined, -, -⟩ | ⟨_, _, -, failed, -⟩
  · have compiled : compileComposition settings.imageUrlTemplate provider composition =
        .ok (sceneOf provider composition [] .empty union) := by
      rw [compileComposition_of_inhabited _ provider composition deletes.ne_nil known, ← agree,
        joined]
      rfl
    exact render_of_blank compiled rfl
  · cases failed

/-- Without a hidden node that nothing notices a document is the same, or it fails for the same
reason at the same node. -/
theorem unnoticed_nodes_leave_outcome (hides : hidden.IsHidden)
    (deletes : Deletes hidden composition.children children)
    (unnoticed : Unnoticed composition hidden children) :
    (render settings provider { composition with children }).mapError Fault.unnumbered =
      (render settings provider composition).mapError Fault.unnumbered := by
  rcases Option.eq_none_or_eq_some composition.absOrigin with missing | ⟨origin, known⟩
  case inl =>
    have left : children ≠ [] := by
      intro none
      obtain ⟨origin, here⟩ := unnoticed.origin none
      rw [missing] at here
      cases here
    have reduced : render settings provider { composition with children } =
        .error (.violation .missingOrigin) := render_of_missing left missing
    rw [reduced, render_of_missing deletes.ne_nil missing]
  case inr =>
    have agree : (compileTopLevel settings.imageUrlTemplate origin children).outcome .empty =
        (compileTopLevel settings.imageUrlTemplate origin composition.children).outcome .empty := by
      rcases agrees_compileTopLevel settings.imageUrlTemplate False hides deletes unnoticed.frames
        origin .empty with same | ⟨never, -⟩
      · exact same.symm
      · exact never.elim
    by_cases left : children = []
    · rw [render_of_emptied deletes unnoticed known left agree,
        render_of_blank (compileComposition_of_blank _ provider left) rfl]
    · exact outcome_of_inhabited deletes unnoticed known left agree

/-- A rectangle and a hidden one whose bounds start at the coordinate. -/
def veiledAt (x : Rat) : Node Rat :=
  .mk { plainProps "veiled" "RECTANGLE" ⟨1, 0, 0, 1, x, 0⟩ with
        visible := false, renderBounds := some ⟨x, 0, 10, 20⟩ } []

def besideVeiled : Node Rat := .mk (plainProps "shown" "RECTANGLE" ⟨1, 0, 0, 1, 0, 0⟩) []

def veiledSketch (x : Rat) : Composition Rat where
  name := "veiled"
  absOrigin := some ⟨0, 0⟩
  bounds := none
  children := [besideVeiled, veiledAt x]

private theorem veiledSketch_deletes (x : Rat) :
    Deletes (veiledAt x) (veiledSketch x).children [besideVeiled] := .later .here

/-- The document of the scene can be made, and it has the viewport. -/
def showsViewport (expected : Viewport) (scene : CompiledScene Rat) : Bool :=
  !scene.nodes.isEmpty &&
    ((numberOfInt Settings.default.outlinePadding).toOption.any fun padding =>
      (Viewport.compute scene.bounds scene.union padding).toOption.any fun viewport =>
        viewport == expected) &&
    ((renderScene .content .default scene).toOption.any fun _ => true) &&
    (fontLinks scene.fontUrl scene.providedUrls).toOption.any fun _ => true

private theorem exists_viewport (composition : Composition Rat) (expected : Viewport)
    (shows : (compileComposition Settings.default.imageUrlTemplate (fun _ => none)
      composition).toOption.any (showsViewport expected) = true) :
    ∃ document, render .default (fun _ => none) composition = .ok document ∧
      document.viewport = expected := by
  obtain ⟨scene, compiled, known⟩ := Except.exists_of_any _ shows
  simp only [showsViewport, Bool.and_eq_true, Bool.not_eq_true'] at known
  obtain ⟨⟨⟨given, padded⟩, drawn⟩, linked⟩ := known
  obtain ⟨padding, padded, seen⟩ := Except.exists_of_any _ padded
  obtain ⟨viewport, seen, same⟩ := Except.exists_of_any _ seen
  obtain ⟨markup, drawn, -⟩ := Except.exists_of_any _ drawn
  obtain ⟨links, linked, -⟩ := Except.exists_of_any _ linked
  obtain ⟨overlay, assembled⟩ := assemble_returns given padded seen drawn linked
  exact ⟨_, Except.bind_eq_ok_iff.mpr ⟨scene, compiled, assembled _⟩, eq_of_beq same⟩

/-- A hidden node in the bounds of the other one is not noticed. -/
theorem veiledSketch_keeps_outcome :
    ∃ document, render .default (fun _ => none) (veiledSketch 0) = .ok document ∧
      document.viewport = ⟨18, 28, 4, 4⟩ ∧
      (render .default (fun _ => none)
          { veiledSketch 0 with children := [besideVeiled] }).mapError Fault.unnumbered =
        (render .default (fun _ => none) (veiledSketch 0)).mapError Fault.unnumbered := by
  obtain ⟨document, rendered, viewport⟩ := exists_viewport (veiledSketch 0) ⟨18, 28, 4, 4⟩
    (by decide +kernel)
  refine ⟨document, rendered, viewport, ?_⟩
  refine unnoticed_nodes_leave_outcome ⟨rfl, rfl⟩ (veiledSketch_deletes 0) ?_
  refine ⟨nofun, ?frames, fun _ => rfl, fun _ _ union joined => ?union, fun _ => rfl⟩
  case frames =>
    intro container member alone
    simp only [veiledSketch, besideVeiled, veiledAt, Node.preorders, Node.preorder,
      List.append_nil, List.mem_append, List.mem_singleton] at member
    rcases member with rfl | rfl <;> cases alone
  case union =>
    have covered (bounds : Rect Rat) : (Extent.ofRect bounds).cover bounds = .ofRect bounds := by
      simp [Extent.cover, Extent.ofRect, Scalar.min, Scalar.max, Scalar.cappedAbove,
        Scalar.cappedBelow]
    rw [← joined]
    exact congrArg (fun extent => Except.ok extent.rect) (covered ⟨0, 0, 10, 20⟩).symm

/-- A hidden node far off widens the viewport, though nothing of it is drawn. -/
theorem hidden_node_widens_viewport :
    (veiledAt 500).IsHidden ∧ Deletes (veiledAt 500) (veiledSketch 500).children [besideVeiled] ∧
      ∃ document reduced, render .default (fun _ => none) (veiledSketch 500) = .ok document ∧
        render .default (fun _ => none)
          { veiledSketch 500 with children := [besideVeiled] } = .ok reduced ∧
        document.viewport = ⟨518, 28, 4, 4⟩ ∧ reduced.viewport = ⟨18, 28, 4, 4⟩ := by
  obtain ⟨document, rendered, wide⟩ := exists_viewport (veiledSketch 500) ⟨518, 28, 4, 4⟩
    (by decide +kernel)
  obtain ⟨reduced, again, narrow⟩ := exists_viewport
    { veiledSketch 500 with children := [besideVeiled] } ⟨18, 28, 4, 4⟩ (by decide +kernel)
  exact ⟨⟨rfl, rfl⟩, veiledSketch_deletes 500, document, reduced, rendered, again, wide, narrow⟩

end Document
end Artboard
