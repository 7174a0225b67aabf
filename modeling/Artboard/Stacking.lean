import Artboard.Css.Declarations
import Artboard.Css.Length
import Artboard.Design.Node

/-!
# Stacking of children

A mask covers the siblings after it up to the next mask. The children of a
container become items: a visible child that no mask covers, or a mask with the
siblings that it covers when one of them is visible. Items may carry a stacking
order and a negative margin, by which they overlap the item before.
-/
namespace Artboard

variable {γ : Type}

/-- What stacking needs to know of a child. -/
structure ChildView (γ : Type) where
  isMask : γ → Bool
  visible : γ → Bool

/-- How a container stacks its children. -/
structure StackStyle (α : Type) where
  autoLayout : Bool
  vertical : Bool
  spacing : α
  reversed : Bool

/-- Children that share one place in the stacking order. -/
inductive StackGroup (γ : Type) where
  | single (child : γ)
  | masked (mask : γ) (covered : List γ)

inductive StackItem (γ : Type) where
  | single (child : γ) (css : Css.Declarations)
  | masked (mask : γ) (covered : List γ) (css : Css.Declarations)

/-- The children before the first mask, and each mask with the children up to the next one. -/
def splitAtMasks (isMask : γ → Bool) : List γ → List γ × List (γ × List γ)
  | [] => ([], [])
  | child :: rest =>
    let (run, masks) := splitAtMasks isMask rest
    if isMask child then ([], (child, run) :: masks) else (child :: run, masks)

def stackGroups (view : ChildView γ) (children : List γ) : List (StackGroup γ) :=
  let (run, masks) := splitAtMasks view.isMask children
  (run.filter view.visible).map .single ++
    (masks.filter fun entry => entry.2.any view.visible).map fun entry => .masked entry.1 entry.2

namespace StackStyle

variable {α : Type} [Scalar α]

def overlaps (style : StackStyle α) : Bool := decide (style.spacing < 0.0)

/-- Stacking is left to the order of the children only in a flow that neither overlaps nor
reverses it. -/
def needsOrder (style : StackStyle α) : Bool :=
  !style.autoLayout || style.overlaps || style.reversed

/-- The stacking order of an item among `total` ones. -/
def orderCss (style : StackStyle α) (total index : Nat) : List Css.Declaration :=
  if style.needsOrder then
    [("z-index", toString (if style.reversed then total - index else index + 1))]
  else []

/-- The margin by which a child overlaps the one before; `position` counts single children. -/
def overlapCss (style : StackStyle α) (position : Nat) : List Css.Declaration :=
  if style.overlaps && style.autoLayout && decide (0 < position) then
    [(if style.vertical then "margin-top" else "margin-left", Css.px style.spacing)]
  else []

/-- Items for groups, of which `index` come before and `position` of those are single. -/
def itemsFrom (style : StackStyle α) (total index position : Nat) :
    List (StackGroup γ) → List (StackItem γ)
  | [] => []
  | .single child :: rest =>
    .single child (.ofList (style.overlapCss position ++ style.orderCss total index)) ::
      itemsFrom style total (index + 1) (position + 1) rest
  | .masked mask covered :: rest =>
    .masked mask covered (.ofList (style.orderCss total index)) ::
      itemsFrom style total (index + 1) position rest

def ofNode (node : NodeProps α) : StackStyle α :=
  { autoLayout := node.isAutoLayout, vertical := node.layoutMode == .vertical
    spacing := node.itemSpacing, reversed := node.itemReverseZIndex }

end StackStyle

/-- The items of a container's children. -/
def stackItems {α : Type} [Scalar α] (style : StackStyle α) (view : ChildView γ)
    (children : List γ) : List (StackItem γ) :=
  let groups := stackGroups view children
  style.itemsFrom groups.length 0 0 groups

end Artboard
