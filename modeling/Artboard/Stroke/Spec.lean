import Artboard.Paint.Gradient
import Artboard.Design.Node

/-!
# Strokes of a node

The stroke of a node is its first visible stroke paint, when that is a solid
colour or a linear gradient. Dashes belong to solid strokes only.
-/
namespace Artboard

variable {α : Type} [Scalar α]

inductive StrokePaint where
  | solid (color : String)
  | gradient (value : String)
deriving DecidableEq, Repr

structure StrokeSpec (α : Type) where
  paint : StrokePaint
  align : StrokeAlign
  weights : Sides α
  dashPattern : List α

namespace StrokeSpec

def noWeights : Sides α := ⟨0.0, 0.0, 0.0, 0.0⟩

def ofNode (node : NodeProps α) : Except Fault (Option (StrokeSpec α)) := do
  let style := node.style
  let weights := style.strokeWeights.getD noWeights
  match style.strokes.find? (·.visible) with
  | none => return none
  | some paint =>
    match paint.source with
    | .solid color =>
      let color ← Paint.colorCss color paint.opacity
      return some ⟨.solid color, style.strokeAlign, weights, style.dashPattern⟩
    | .gradient gradient =>
      if gradient.kind ≠ .linear then return none
      match ← Paint.gradientCss gradient paint.opacity (node.numericLength .width)
          (node.numericLength .height) with
      | some value => return some ⟨.gradient value, style.strokeAlign, weights, []⟩
      | none => return none
    | .image _ => return none

end StrokeSpec

/-- A dash of at most two pixels makes dots. -/
def borderStyle (dashPattern : List α) : String :=
  match dashPattern with
  | [] => "solid"
  | first :: _ => if first ≤ 2.0 then "dotted" else "dashed"

end Artboard
