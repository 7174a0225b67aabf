import Artboard.Layout.Placement
import Artboard.Proofs.Scene.Compilation

/-!
# Layouts read back

A node is laid out where its frame and its place are known. The layout is that of the
place, or of the flow that takes the node there, and what the node says about its
lengths and its children is filled in. Later proofs cite this and never unfold the
computation.
-/
namespace Artboard.Layout

variable {α : Type} [Scalar α]

/-- What a node says about its lengths and, as a frame, about its children. -/
def filled (node : NodeProps α) (flows : Bool) (start : Layout α) : Layout α :=
  if NodeKind.ofNode node = .frame then (start.withSymbolicLengths node).withContainer node flows
  else start.withSymbolicLengths node

theorem compute_eq_ok_iff {node : NodeProps α} {flows : Bool} {parent : Affine α}
    {flow : Option Flow} {layout : Layout α} :
    compute node flows parent flow = .ok layout ↔
      ∃ own inverse place, node.absoluteTransform = some own ∧ parent.invert = some inverse ∧
        Layout.place node inverse (inverse.compose own) = .ok place ∧
        (flow = none ∧ layout = (ofPlace place).filled node flows ∨
          ∃ taken size, flow = some taken ∧ node.size = .ok size ∧ layout =
            (inFlow node (NodeKind.ofNode node) taken place (inverse.compose own) size).filled node
              flows) := by
  constructor
  · intro computed
    unfold compute at computed
    dsimp only at computed
    split at computed
    · cases computed
    · cases computed
    next own inverse known inverted =>
      obtain ⟨place, placed, computed⟩ := Except.bind_eq_ok_iff.mp computed
      refine ⟨own, inverse, place, known, inverted, placed, ?_⟩
      cases flow with
      | none =>
        cases computed
        exact .inl ⟨rfl, rfl⟩
      | some taken =>
        obtain ⟨size, sized, computed⟩ := Except.bind_eq_ok_iff.mp computed
        cases computed
        exact .inr ⟨taken, size, rfl, sized, rfl⟩
  · rintro ⟨own, inverse, place, known, inverted, placed,
      ⟨rfl, rfl⟩ | ⟨taken, size, rfl, sized, rfl⟩⟩
    · simp only [compute, known, inverted, placed]
      rfl
    · simp only [compute, known, inverted, placed, sized]
      rfl

end Artboard.Layout
