import Artboard.Document.Viewport
import Artboard.Proofs.BoundingBox
import Artboard.Proofs.Number.Rational
import Artboard.Proofs.Scene.Enumeration
import Artboard.Scene.Composition

/-!
# The smallest viewport

Over the rationals the union of the render bounds is the bounding box of all their
points, and the viewport of that union is the smallest one with integer measures
that keeps a padding around the canvas and around every node.
-/
namespace Artboard

/-! ### The union of the render bounds -/

section Union

theorem Extent.rect_ofRect (rect : Rect Rat) : (Extent.ofRect rect).rect = rect := by
  have width : rect.x + rect.width - rect.x = rect.width := add_sub_cancel_left ..
  have height : rect.y + rect.height - rect.y = rect.height := add_sub_cancel_left ..
  simp only [Extent.rect, Extent.ofRect, Scalar.cappedAbove, Scalar.cappedBelow, width, height]

/-- Covering one more rectangle adds its points. -/
theorem IsBoundingBox.cover {points : Set (Rat × Rat)} {extent : Extent Rat} {rect : Rect Rat}
    (box : IsBoundingBox points extent.rect) (nonneg : rect.Nonneg) :
    IsBoundingBox (points ∪ rect.points) (extent.cover rect).rect := by
  refine box.union (.of_points nonneg) ?left ?top ?right ?bottom
  case left => exact scalarMin_rat ..
  case top => exact scalarMin_rat ..
  case right => simp only [Extent.rect, Extent.cover, scalarMax_rat, add_sub_cancel]
  case bottom => simp only [Extent.rect, Extent.cover, scalarMax_rat, add_sub_cancel]

/-- Covering rectangles one after another adds the points of all of them. -/
theorem IsBoundingBox.foldl_cover {rects : List (Rect Rat)} (nonneg : ∀ rect ∈ rects, rect.Nonneg)
    {points : Set (Rat × Rat)} {extent : Extent Rat} (box : IsBoundingBox points extent.rect) :
    IsBoundingBox (points ∪ Rect.area rects) (rects.foldl Extent.cover extent).rect := by
  -- On the rectangles still to cover; the points that are covered already move along.
  induction rects generalizing points extent with
  | nil => simpa using box
  | cons rect rest ih =>
    rw [List.forall_mem_cons] at nonneg
    rw [Rect.area_cons, ← Set.union_assoc, List.foldl_cons]
    exact ih nonneg.2 (box.cover nonneg.1)

/-- The render bounds that the nodes have. -/
def renderBounds {α : Type} (nodes : List (Node α)) : List (Rect α) :=
  nodes.filterMap fun node => node.props.renderBounds

/-- A node with render bounds of a size that is not negative. -/
def Node.Bounded (node : Node Rat) : Prop := ∃ rect ∈ node.props.renderBounds, rect.Nonneg

theorem boundsFrom_of_bounded {nodes : List (Node Rat)} (bounded : ∀ node ∈ nodes, node.Bounded)
    (index : Nat) : boundsFrom index nodes = .ok (renderBounds nodes) := by
  induction nodes generalizing index with
  | nil => rfl
  | cons node rest ih =>
    rw [List.forall_mem_cons] at bounded
    obtain ⟨rect, found, -⟩ := bounded.1
    rw [Option.mem_def] at found
    simp only [boundsFrom, found, ih bounded.2, renderBounds, List.filterMap_cons]
    rfl

theorem nonneg_of_mem_renderBounds {nodes : List (Node Rat)}
    (bounded : ∀ node ∈ nodes, node.Bounded) {rect : Rect Rat}
    (member : rect ∈ renderBounds nodes) : rect.Nonneg := by
  obtain ⟨node, inside, found⟩ := List.mem_filterMap.mp member
  obtain ⟨same, known, nonneg⟩ := bounded node inside
  rw [Option.mem_def, found, Option.some_inj] at known
  exact known ▸ nonneg

/-- The union is the bounding box of the bounds; it is the origin if there are none. -/
theorem renderUnion_of_bounded {nodes : List (Node Rat)}
    (bounded : ∀ node ∈ nodes, node.Bounded) : ∃ union, renderUnion nodes = .ok union ∧
      (renderBounds nodes = [] ∧ union = ⟨0, 0, 0, 0⟩ ∨
        IsBoundingBox (Rect.area (renderBounds nodes)) union) := by
  rw [renderUnion, boundsFrom_of_bounded bounded]
  have nonneg : ∀ rect ∈ renderBounds nodes, rect.Nonneg :=
    fun _ => nonneg_of_mem_renderBounds bounded
  -- The first rectangle starts the extent, so only a union of some rectangles is a bounding box.
  cases bounds : renderBounds nodes with
  | nil =>
    exact ⟨_, rfl, .inl ⟨rfl, by simp only [Rect.zero, zero_rat]⟩⟩
  | cons first rest =>
    rw [bounds, List.forall_mem_cons] at nonneg
    refine ⟨_, rfl, .inr ?_⟩
    rw [Rect.area_cons]
    refine IsBoundingBox.foldl_cover nonneg.2 ?_
    rw [Extent.rect_ofRect]
    exact .of_points nonneg.1

/-- The union says nothing about the order of the nodes. -/
theorem renderUnion_perm {nodes others : List (Node Rat)}
    (bounded : ∀ node ∈ nodes, node.Bounded) (same : others.Perm nodes) :
    renderUnion others = renderUnion nodes := by
  obtain ⟨union, joined, found⟩ := renderUnion_of_bounded bounded
  have bounded' : ∀ node ∈ others, node.Bounded := fun node member =>
    bounded node (same.subset member)
  obtain ⟨union', joined', found'⟩ := renderUnion_of_bounded bounded'
  have bounds : (renderBounds others).Perm (renderBounds nodes) := same.filterMap _
  have blank : renderBounds others = [] ↔ renderBounds nodes = [] := by
    rw [← List.length_eq_zero_iff, bounds.length_eq, List.length_eq_zero_iff]
  rw [joined, joined', Except.ok.injEq]
  rw [Rect.area_perm bounds] at found'
  -- Both unions are bounding boxes of the same points, unless there are none.
  rcases found with ⟨none, rfl⟩ | box <;> rcases found' with ⟨none', rfl⟩ | box'
  · rfl
  · obtain ⟨_, member, -⟩ := box'.left.1
    simp [none] at member
  · obtain ⟨_, member, -⟩ := box.left.1
    simp [blank.mp none'] at member
  · exact box'.unique box

end Union

/-! ### The viewport -/

namespace Document

/-- The canvas lies at the origin; without one only the origin is kept in view. -/
def canvasRect (canvas : Option (Rect Rat)) : Rect Rat where
  x := 0
  y := 0
  width := (canvas.map Rect.width).getD 0
  height := (canvas.map Rect.height).getD 0

namespace Viewport

/-- All points, moved by the offsets, stay behind the padding at each edge of the viewport. -/
def Holds (viewport : Viewport) (padding : Rat) (points : Set (Rat × Rat)) : Prop :=
  ∀ point ∈ points, (point.1 + viewport.offsetX, point.2 + viewport.offsetY) ∈
    Set.Icc (padding, padding) (viewport.width - padding, viewport.height - padding)

/-- The viewport holds the points, with the least offsets and, for these, the least measures. -/
structure Smallest (viewport : Viewport) (padding : Rat) (points : Set (Rat × Rat)) : Prop where
  holds : viewport.Holds padding points
  offsets : ∀ other : Viewport, other.Holds padding points →
    viewport.offsetX ≤ other.offsetX ∧ viewport.offsetY ≤ other.offsetY
  width : ∀ other : Viewport, other.Holds padding points → other.offsetX = viewport.offsetX →
    viewport.width ≤ other.width
  height : ∀ other : Viewport, other.Holds padding points → other.offsetY = viewport.offsetY →
    viewport.height ≤ other.height

variable {points : Set (Rat × Rat)} {rect : Rect Rat} {padding : Rat}

/-- A viewport holds points if and only if the edges of their bounding box are behind the
padding. -/
theorem holds_iff (box : IsBoundingBox points rect) (viewport : Viewport) :
    viewport.Holds padding points ↔
      (padding ≤ rect.x + viewport.offsetX ∧ padding ≤ rect.y + viewport.offsetY) ∧
        rect.x + rect.width + viewport.offsetX ≤ viewport.width - padding ∧
        rect.y + rect.height + viewport.offsetY ≤ viewport.height - padding := by
  constructor
  · intro holds
    obtain ⟨left, inLeft, atLeft⟩ := box.left.1
    obtain ⟨top, inTop, atTop⟩ := box.top.1
    obtain ⟨right, inRight, atRight⟩ := box.right.1
    obtain ⟨bottom, inBottom, atBottom⟩ := box.bottom.1
    rw [← atRight, ← atBottom, ← atLeft, ← atTop]
    exact ⟨⟨(holds left inLeft).1.1, (holds top inTop).1.2⟩, (holds right inRight).2.1,
      (holds bottom inBottom).2.2⟩
  · rintro ⟨⟨left, top⟩, right, bottom⟩ point member
    obtain ⟨⟨afterLeft, afterTop⟩, beforeRight, beforeBottom⟩ := box.subset_points member
    constructor <;> constructor <;> dsimp only at * <;> linarith

/-- The viewport of a bounding box: the edges rounded up, the offsets first. -/
def around (rect : Rect Rat) (padding : Rat) : Viewport where
  width := ⌈rect.x + rect.width + ⌈padding - rect.x⌉ + padding⌉
  height := ⌈rect.y + rect.height + ⌈padding - rect.y⌉ + padding⌉
  offsetX := ⌈padding - rect.x⌉
  offsetY := ⌈padding - rect.y⌉

theorem smallest_around (box : IsBoundingBox points rect) :
    (around rect padding).Smallest padding points where
  holds := by
    have left := Int.le_ceil (padding - rect.x)
    have top := Int.le_ceil (padding - rect.y)
    have right := Int.le_ceil (rect.x + rect.width + ⌈padding - rect.x⌉ + padding)
    have bottom := Int.le_ceil (rect.y + rect.height + ⌈padding - rect.y⌉ + padding)
    rw [holds_iff box]
    dsimp only [around]
    refine ⟨⟨?_, ?_⟩, ?_, ?_⟩ <;> linarith
  offsets other holds := by
    -- The padding at the left and at the top bounds the offsets, whatever the measures are.
    obtain ⟨⟨left, top⟩, -⟩ := (holds_iff box other).mp holds
    constructor
    · exact Int.ceil_le.mpr (by linarith)
    · exact Int.ceil_le.mpr (by linarith)
  width other holds same := by
    obtain ⟨-, right, -⟩ := (holds_iff box other).mp holds
    rw [same] at right
    exact Int.ceil_le.mpr (by dsimp only [around] at right; linarith)
  height other holds same := by
    obtain ⟨-, -, bottom⟩ := (holds_iff box other).mp holds
    rw [same] at bottom
    exact Int.ceil_le.mpr (by dsimp only [around] at bottom; linarith)

/-- The rectangle from the origin, or what is left of it and above, to the end of the canvas, or
what is right of it and below. -/
def reach (canvas : Option (Rect Rat)) (union : Rect Rat) : Rect Rat where
  x := min 0 union.x
  y := min 0 union.y
  width := max (canvasRect canvas).width (union.x + union.width) - min 0 union.x
  height := max (canvasRect canvas).height (union.y + union.height) - min 0 union.y

theorem compute_eq (canvas : Option (Rect Rat)) (union : Rect Rat) (padding : Rat) :
    compute canvas union padding = .ok (around (reach canvas union) padding) := by
  have integer (value : Int) : (Scalar.ofInt value : Rat) = value := rfl
  cases canvas <;>
  · simp only [compute, offset, extent, ceilInt_rat, scalarMin_rat, scalarMax_rat, zero_rat,
      integer, around, reach, canvasRect, add_sub_cancel]
    rfl

theorem canvasRect_nonneg {canvas : Option (Rect Rat)} (nonneg : ∀ rect ∈ canvas, rect.Nonneg) :
    (canvasRect canvas).Nonneg := by
  cases canvas with
  | none => exact ⟨le_rfl, le_rfl⟩
  | some rect => exact nonneg rect rfl

/-- The reach is the bounding box of the canvas and of everything that the union is the bounding
box of. -/
theorem reach_boundingBox {canvas : Option (Rect Rat)} {bounds : List (Rect Rat)}
    {union : Rect Rat} (nonneg : ∀ rect ∈ canvas, rect.Nonneg)
    (found : bounds = [] ∧ union = ⟨0, 0, 0, 0⟩ ∨ IsBoundingBox (Rect.area bounds) union) :
    IsBoundingBox (Rect.area (canvasRect canvas :: bounds)) (reach canvas union) := by
  have box := IsBoundingBox.of_points (canvasRect_nonneg nonneg)
  rw [Rect.area_cons]
  rcases found with ⟨rfl, rfl⟩ | found
  · -- The zero rectangle ends at the origin, before the canvas does.
    obtain ⟨wide, high⟩ := canvasRect_nonneg nonneg
    have same : reach canvas ⟨0, 0, 0, 0⟩ = canvasRect canvas := by
      simp only [reach, min_self, add_zero, sub_zero, max_eq_left wide, max_eq_left high]
      rfl
    rw [Rect.area_nil, Set.union_empty, same]
    exact box
  · refine box.union found ?left ?top ?right ?bottom
    case left => rfl
    case top => rfl
    case right => simp only [reach, canvasRect, add_sub_cancel, zero_add]
    case bottom => simp only [reach, canvasRect, add_sub_cancel, zero_add]

end Viewport

/-- The union of the nodes exists and does not depend on their order, and the viewport of it is the
smallest one for the canvas and the render bounds of all nodes. -/
theorem viewport_is_smallest {nodes : List (Node Rat)} {canvas : Option (Rect Rat)} (padding : Rat)
    (bounded : ∀ node ∈ nodes, node.Bounded) (nonneg : ∀ rect ∈ canvas, rect.Nonneg) :
    ∃ union viewport, renderUnion nodes = .ok union ∧
      Viewport.compute canvas union padding = .ok viewport ∧
      viewport.Smallest padding (Rect.area (canvasRect canvas :: renderBounds nodes)) ∧
      ∀ others : List (Node Rat), others.Perm nodes → renderUnion others = .ok union := by
  obtain ⟨union, joined, found⟩ := renderUnion_of_bounded bounded
  refine ⟨union, _, joined, Viewport.compute_eq canvas union padding,
    Viewport.smallest_around (Viewport.reach_boundingBox nonneg found), fun others same => ?_⟩
  rw [renderUnion_perm bounded same, joined]

/-- A node with the given render bounds. -/
def drawnNode (id : String) (bounds : Rect Rat) : Node Rat :=
  .mk { plainProps id "RECTANGLE" .identity with renderBounds := some bounds } []

/-- Two nodes that stick out of a canvas to the left and above, and far to the right. -/
def scatteredNodes : List (Node Rat) :=
  [drawnNode "line" ⟨-21 / 2, 2, 3 / 2, 0⟩, drawnNode "bar" ⟨200, -1 / 3, 1 / 2, 7⟩]

theorem scattered_viewport :
    ∃ union, renderUnion scatteredNodes = .ok union ∧
      Viewport.compute (some ⟨0, 0, 100, 50⟩) union 4 = .ok ⟨220, 59, 15, 5⟩ ∧
      Viewport.Smallest ⟨220, 59, 15, 5⟩ 4
        (Rect.area (canvasRect (some ⟨0, 0, 100, 50⟩) :: renderBounds scatteredNodes)) ∧
      renderUnion scatteredNodes.reverse = .ok union := by
  have bounded : ∀ node ∈ scatteredNodes, node.Bounded := by
    intro node member
    simp only [scatteredNodes, List.mem_cons, List.not_mem_nil, or_false] at member
    rcases member with rfl | rfl <;> exact ⟨_, rfl, by constructor <;> decide +kernel⟩
  have nonneg : ∀ rect ∈ some (⟨0, 0, 100, 50⟩ : Rect Rat), rect.Nonneg := by
    rintro _ ⟨⟩
    constructor <;> decide +kernel
  obtain ⟨union, viewport, joined, computed, smallest, ordered⟩ :=
    viewport_is_smallest 4 bounded nonneg
  have known : (renderUnion scatteredNodes).toOption.bind (fun union =>
      (Viewport.compute (some ⟨0, 0, 100, 50⟩) union 4).toOption) = some ⟨220, 59, 15, 5⟩ := by
    decide +kernel
  obtain rfl : viewport = ⟨220, 59, 15, 5⟩ := by
    simpa [joined, computed, Except.toOption] using known
  exact ⟨union, joined, computed, smallest, ordered _ (List.reverse_perm _)⟩

end Document

end Artboard
