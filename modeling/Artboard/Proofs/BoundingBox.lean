import Artboard.Design.Geometry
import Mathlib.Algebra.Order.Field.Rat
import Mathlib.Algebra.Order.Group.Defs
import Mathlib.Order.Bounds.Basic
import Mathlib.Order.Interval.Set.Basic
import Mathlib.Tactic.Linarith

/-!
# Bounding boxes

The bounding box of a set of points is the rectangle whose edges are the least
and the greatest coordinates that the points have.
-/
namespace Artboard

/-- The points of a rectangle, its edges included. -/
def Rect.points (rect : Rect Rat) : Set (Rat × Rat) :=
  Set.Icc (rect.x, rect.y) (rect.x + rect.width, rect.y + rect.height)

/-- The points of all rectangles. -/
def Rect.area (rects : List (Rect Rat)) : Set (Rat × Rat) :=
  {point | ∃ rect ∈ rects, point ∈ rect.points}

/-- A rectangle that is not turned inside out. -/
def Rect.Nonneg (rect : Rect Rat) : Prop := 0 ≤ rect.width ∧ 0 ≤ rect.height

/-- Each edge of the rectangle touches the points, and none of them is beyond it. -/
structure IsBoundingBox (points : Set (Rat × Rat)) (rect : Rect Rat) : Prop where
  left : IsLeast (Prod.fst '' points) rect.x
  top : IsLeast (Prod.snd '' points) rect.y
  right : IsGreatest (Prod.fst '' points) (rect.x + rect.width)
  bottom : IsGreatest (Prod.snd '' points) (rect.y + rect.height)

theorem Rect.mem_points {rect : Rect Rat} {point : Rat × Rat} :
    point ∈ rect.points ↔ (rect.x ≤ point.1 ∧ rect.y ≤ point.2) ∧
      point.1 ≤ rect.x + rect.width ∧ point.2 ≤ rect.y + rect.height :=
  Iff.rfl

@[simp]
theorem Rect.area_nil : Rect.area [] = ∅ := by
  simp [Rect.area]

@[simp]
theorem Rect.area_cons (rect : Rect Rat) (rects : List (Rect Rat)) :
    Rect.area (rect :: rects) = rect.points ∪ Rect.area rects := by
  ext point
  simp [Rect.area]

theorem Rect.area_perm {first second : List (Rect Rat)} (same : first.Perm second) :
    Rect.area first = Rect.area second := by
  ext point
  simp [Rect.area, same.mem_iff]

namespace IsBoundingBox

variable {points others : Set (Rat × Rat)} {rect other : Rect Rat}

/-- Coordinates at which every edge is touched, and which no point passes. -/
theorem of_touching (inside : points ⊆ rect.points)
    (left : ∃ point ∈ points, point.1 = rect.x) (top : ∃ point ∈ points, point.2 = rect.y)
    (right : ∃ point ∈ points, point.1 = rect.x + rect.width)
    (bottom : ∃ point ∈ points, point.2 = rect.y + rect.height) : IsBoundingBox points rect where
  left := ⟨left, Set.forall_mem_image.mpr fun _ member => (inside member).1.1⟩
  top := ⟨top, Set.forall_mem_image.mpr fun _ member => (inside member).1.2⟩
  right := ⟨right, Set.forall_mem_image.mpr fun _ member => (inside member).2.1⟩
  bottom := ⟨bottom, Set.forall_mem_image.mpr fun _ member => (inside member).2.2⟩

theorem subset_points (box : IsBoundingBox points rect) : points ⊆ rect.points := by
  intro point member
  have across := Set.mem_image_of_mem Prod.fst member
  have down := Set.mem_image_of_mem Prod.snd member
  exact ⟨⟨box.left.2 across, box.top.2 down⟩, box.right.2 across, box.bottom.2 down⟩

/-- More points inside the box leave it as it is. -/
theorem mono (box : IsBoundingBox points rect) (more : points ⊆ others)
    (inside : others ⊆ rect.points) : IsBoundingBox others rect := by
  have touched {coordinate : Rat × Rat → Rat} {edge : Rat}
      (touches : edge ∈ coordinate '' points) : ∃ point ∈ others, coordinate point = edge :=
    Set.image_mono more touches
  exact of_touching inside (touched box.left.1) (touched box.top.1) (touched box.right.1)
    (touched box.bottom.1)

theorem unique (box : IsBoundingBox points rect) (also : IsBoundingBox points other) :
    rect = other := by
  have left := box.left.unique also.left
  have top := box.top.unique also.top
  have right := box.right.unique also.right
  have bottom := box.bottom.unique also.bottom
  cases rect
  cases other
  simp_all

theorem of_points (nonneg : rect.Nonneg) : IsBoundingBox rect.points rect := by
  obtain ⟨wide, high⟩ := nonneg
  -- The first corner is on the left and top edges, the last one on the other two.
  have first : (rect.x, rect.y) ∈ rect.points := by
    rw [Rect.mem_points]
    constructor <;> constructor <;> dsimp only <;> linarith
  have last : (rect.x + rect.width, rect.y + rect.height) ∈ rect.points := by
    rw [Rect.mem_points]
    constructor <;> constructor <;> dsimp only <;> linarith
  exact of_touching subset_rfl ⟨_, first, rfl⟩ ⟨_, first, rfl⟩ ⟨_, last, rfl⟩ ⟨_, last, rfl⟩

/-- The box of two sets reaches from the lesser to the greater of their edges. -/
theorem union {joined : Rect Rat} (box : IsBoundingBox points rect)
    (also : IsBoundingBox others other) (left : joined.x = min rect.x other.x)
    (top : joined.y = min rect.y other.y)
    (right : joined.x + joined.width = max (rect.x + rect.width) (other.x + other.width))
    (bottom : joined.y + joined.height = max (rect.y + rect.height) (other.y + other.height)) :
    IsBoundingBox (points ∪ others) joined where
  left := by
    rw [left, Set.image_union]
    exact box.left.union also.left
  top := by
    rw [top, Set.image_union]
    exact box.top.union also.top
  right := by
    rw [right, Set.image_union]
    exact box.right.union also.right
  bottom := by
    rw [bottom, Set.image_union]
    exact box.bottom.union also.bottom

end IsBoundingBox

end Artboard
