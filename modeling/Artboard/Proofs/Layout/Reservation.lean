import Artboard.Proofs.Affine
import Artboard.Proofs.BoundingBox
import Artboard.Proofs.Number.Rational
import Artboard.Proofs.Scene.Layouts
import Artboard.Render.Box
import Mathlib.Algebra.Order.Field.Basic

/-!
# Reservations

In a flow a turned, reflected or unevenly scaled box reserves the extent of its
four corners. The box is painted at its true size around the centre of what it
reserves, and touches all four edges of that.
-/
namespace Artboard

/-! ### Boxes under affine maps -/

section Images

/-- The points of a box at the origin. -/
def Size.points (size : Size Rat) : Set (Rat × Rat) :=
  Rect.points ⟨0, 0, size.width, size.height⟩

/-- The corners of a box at the origin. -/
def Size.corners (size : Size Rat) : Set (Rat × Rat) :=
  {(0, 0), (size.width, 0), (0, size.height), (size.width, size.height)}

def Affine.image (map : Affine Rat) (points : Set (Rat × Rat)) : Set (Rat × Rat) :=
  (fun point => map.apply point.1 point.2) '' points

/-- The rectangle around the image of the centre of a box whose measures are those of the image
of the box. -/
def Affine.extent (map : Affine Rat) (size : Size Rat) : Rect Rat :=
  let center := map.apply (size.width / 2) (size.height / 2)
  let width := |map.a| * size.width + |map.c| * size.height
  let height := |map.b| * size.width + |map.d| * size.height
  ⟨center.1 - width / 2, center.2 - height / 2, width, height⟩

variable {size : Size Rat}

theorem Size.corners_subset (nonneg : 0 ≤ size.width ∧ 0 ≤ size.height) :
    size.corners ⊆ size.points := by
  obtain ⟨wide, high⟩ := nonneg
  rintro point (rfl | rfl | rfl | rfl) <;> rw [Size.points, Rect.mem_points] <;>
    simp [wide, high]

/-- No point of a box is further from the image of the centre than half the extent. -/
private theorem abs_sub_center_le (p q : Rat) {point : Rat × Rat} (inside : point ∈ size.points) :
    |p * (point.1 - size.width / 2) + q * (point.2 - size.height / 2)| ≤
      (|p| * size.width + |q| * size.height) / 2 := by
  obtain ⟨⟨left, top⟩, right, bottom⟩ := Rect.mem_points.mp inside
  dsimp only at left top right bottom
  have across : |point.1 - size.width / 2| ≤ size.width / 2 :=
    abs_le.mpr ⟨by linarith, by linarith⟩
  have down : |point.2 - size.height / 2| ≤ size.height / 2 :=
    abs_le.mpr ⟨by linarith, by linarith⟩
  calc
    _ ≤ |p * (point.1 - size.width / 2)| + |q * (point.2 - size.height / 2)| := abs_add_le _ _
    _ = |p| * |point.1 - size.width / 2| + |q| * |point.2 - size.height / 2| := by
      rw [abs_mul, abs_mul]
    _ ≤ |p| * (size.width / 2) + |q| * (size.height / 2) :=
      add_le_add (mul_le_mul_of_nonneg_left across (abs_nonneg p))
        (mul_le_mul_of_nonneg_left down (abs_nonneg q))
    _ = _ := by ring

/-- One corner is that far away: on each axis the one on the side that the sign points to. -/
private theorem exists_far_corner (size : Size Rat) (p q : Rat) : ∃ corner ∈ size.corners,
    p * (corner.1 - size.width / 2) + q * (corner.2 - size.height / 2) =
      (|p| * size.width + |q| * size.height) / 2 := by
  rcases le_total 0 p with right | left <;> rcases le_total 0 q with bottom | top
  · refine ⟨(size.width, size.height), by simp [Size.corners], ?_⟩
    rw [abs_of_nonneg right, abs_of_nonneg bottom]
    ring
  · refine ⟨(size.width, 0), by simp [Size.corners], ?_⟩
    rw [abs_of_nonneg right, abs_of_nonpos top]
    ring
  · refine ⟨(0, size.height), by simp [Size.corners], ?_⟩
    rw [abs_of_nonpos left, abs_of_nonneg bottom]
    ring
  · refine ⟨(0, 0), by simp [Size.corners], ?_⟩
    rw [abs_of_nonpos left, abs_of_nonpos top]
    ring

/-- A coordinate of the image, as its distance from the image of the centre. -/
def Size.coordinate (size : Size Rat) (center p q : Rat) (point : Rat × Rat) : Rat :=
  center + (p * (point.1 - size.width / 2) + q * (point.2 - size.height / 2))

/-- Among points of the box with its corners, a coordinate reaches half the extent to both sides of
the centre. -/
private theorem coordinate_bounds (center p q : Rat) {points : Set (Rat × Rat)}
    (corners : size.corners ⊆ points) (inside : points ⊆ size.points) :
    IsLeast (size.coordinate center p q '' points)
        (center - (|p| * size.width + |q| * size.height) / 2) ∧
      IsGreatest (size.coordinate center p q '' points)
        (center - (|p| * size.width + |q| * size.height) / 2 +
          (|p| * size.width + |q| * size.height)) := by
  have near (point : Rat × Rat) (member : point ∈ points) :=
    abs_le.mp (abs_sub_center_le p q (inside member))
  obtain ⟨most, atMost, far⟩ := exists_far_corner size p q
  -- The coordinate is least where its negative is greatest.
  obtain ⟨least, atLeast, far'⟩ := exists_far_corner size (-p) (-q)
  rw [abs_neg, abs_neg] at far'
  refine ⟨⟨⟨least, corners atLeast, ?_⟩, ?_⟩, ⟨most, corners atMost, ?_⟩, ?_⟩
  · rw [Size.coordinate]
    linarith
  · refine Set.forall_mem_image.mpr fun point member => ?_
    rw [Size.coordinate]
    linarith [(near point member).1]
  · rw [Size.coordinate]
    linarith
  · refine Set.forall_mem_image.mpr fun point member => ?_
    rw [Size.coordinate]
    linarith [(near point member).2]

private theorem coordinates_image (map : Affine Rat) (size : Size Rat) (points : Set (Rat × Rat)) :
    Prod.fst '' map.image points =
        size.coordinate (map.apply (size.width / 2) (size.height / 2)).1 map.a map.c '' points ∧
      Prod.snd '' map.image points =
        size.coordinate (map.apply (size.width / 2) (size.height / 2)).2 map.b map.d '' points := by
  rw [Affine.image, Set.image_image, Set.image_image]
  constructor <;> refine Set.image_congr fun point _ => ?_ <;>
    simp only [Affine.apply, Size.coordinate] <;> ring

/-- The extent is the bounding box of the image of the box, and of any of its points that the
corners are among. -/
theorem Affine.boundingBox_image (map : Affine Rat) {points : Set (Rat × Rat)}
    (corners : size.corners ⊆ points) (inside : points ⊆ size.points) :
    IsBoundingBox (map.image points) (map.extent size) := by
  obtain ⟨across, down⟩ := coordinates_image map size points
  refine ⟨?left, ?top, ?right, ?bottom⟩
  case left => exact across ▸ (coordinate_bounds _ _ _ corners inside).1
  case top => exact down ▸ (coordinate_bounds _ _ _ corners inside).1
  case right => exact across ▸ (coordinate_bounds _ _ _ corners inside).2
  case bottom => exact down ▸ (coordinate_bounds _ _ _ corners inside).2

end Images

/-! ### The footprint of a layout -/

/-- What of a layout says where its box is painted and what it takes in the flow. -/
structure Layout.Footprint (α : Type) where
  position : Position
  left : α
  top : α
  size : Size α
  origin : Origin
  transform : Linear α
  /-- The size of the content of a wrapper. -/
  content : Option (Size α)

namespace Layout

variable {α : Type}

def footprint (layout : Layout α) : Footprint α where
  position := layout.position
  left := layout.left
  top := layout.top
  size := ⟨layout.width, layout.height⟩
  origin := layout.origin
  transform := layout.transform
  content := layout.wrapper.map fun wrapper => ⟨wrapper.contentWidth, wrapper.contentHeight⟩

/-- A content that is there on a condition tells when there is a wrapper, and its size. -/
theorem wrapper_of_content {layout : Layout α} {holds : Prop} [Decidable holds] {size : Size α}
    (content : layout.footprint.content = if holds then some size else none) :
    (layout.wrapper.isSome ↔ holds) ∧ ∀ wrapper ∈ layout.wrapper,
      wrapper.contentWidth = size.width ∧ wrapper.contentHeight = size.height := by
  dsimp only [footprint] at content
  split at content
  case isTrue held =>
    obtain ⟨wrapper, found, rfl⟩ := Option.map_eq_some_iff.mp content
    rw [found]
    refine ⟨by simp [held], ?_⟩
    rintro _ ⟨⟩
    exact ⟨rfl, rfl⟩
  case isFalse other =>
    rw [Option.map_eq_none_iff] at content
    rw [content]
    exact ⟨by simp [other], nofun⟩

variable [Scalar α]

theorem footprint_withContainer (node : NodeProps α) (flows : Bool) (layout : Layout α) :
    (layout.withContainer node flows).footprint = layout.footprint := by
  obtain ⟨cssWidth, cssHeight, same⟩ := withFlow_eq node flows layout
  have kept : (layout.withFlow node flows).footprint = layout.footprint := by
    rw [same, forChildren]
    split <;> rfl
  rw [← kept]
  simp only [footprint, withContainer, Option.map_map]
  rfl

theorem footprint_inFlow (node : NodeProps α) (kind : NodeKind) (flow : Flow) (place : Place α)
    (map : Affine α) (size : Size α) :
    (inFlow node kind flow place map size).footprint =
      { position := .relative, left := 0.0, top := 0.0
        size := (flowSize kind place map size).1, origin := .center
        transform := place.transform
        content := (flowSize kind place map size).2.map fun wrapper =>
          ⟨wrapper.contentWidth, wrapper.contentHeight⟩ } := by
  simp only [inFlow]
  split
  case h_2 => rfl
  case h_1 axis _ => cases axis <;> rfl

/-- A box in flow keeps the footprint that the flow gave it. -/
theorem compute_footprint {node : NodeProps α} {parent own inverse : Affine α} {size : Size α}
    (flow : Flow) (flows : Bool) (other : NodeKind.ofNode node ≠ .svg)
    (here : node.absoluteTransform = some own) (inverted : parent.invert = some inverse)
    (sized : node.size = .ok size) :
    ∃ place layout, compute node flows parent (some flow) = .ok layout ∧
      place.transform = (inverse.compose own).linear ∧
      layout.footprint = (inFlow node (NodeKind.ofNode node) flow place (inverse.compose own)
        size).footprint := by
  have placed : ∃ place, Layout.place node inverse (inverse.compose own) = .ok place ∧
      place.transform = (inverse.compose own).linear := by
    rw [Layout.place, if_neg other, Place.ofBox, sized]
    exact ⟨_, rfl, rfl⟩
  obtain ⟨place, placed, transform⟩ := placed
  refine ⟨place, _, compute_eq_ok_iff.mpr
    ⟨own, inverse, place, here, inverted, placed, .inr ⟨flow, size, rfl, sized, rfl⟩⟩, transform, ?_⟩
  unfold filled
  split
  · exact footprint_withContainer ..
  · rfl

end Layout

/-! ### Centred elements -/

/-- The map that turns a content about its own centre and puts that at the centre of a
container. -/
def Affine.around (linear : Linear Rat) (container content : Size Rat) : Affine Rat :=
  (shift (container.width / 2) (container.height / 2)).compose
    ((ofParts linear 0 0).compose (shift (-(content.width / 2)) (-(content.height / 2))))

namespace Css

/-- A function of a transform. An element is moved by shares of its own measures, in hundredths. -/
inductive TransformStep where
  | translate (x y : Int)
  | matrix (linear : Linear Rat)

namespace TransformStep

def text : TransformStep → Except Fault String
  | translate x y => .ok s!"translate({x}%,{y}%)"
  | matrix linear => linearMatrix linear

def map (content : Size Rat) : TransformStep → Affine Rat
  | translate x y => .shift (x / 100 * content.width) (y / 100 * content.height)
  | matrix linear => .ofParts linear 0 0

end TransformStep

/-- An element whose top left corner is put at shares of its container, in hundredths, and which is
then transformed about its centre. -/
structure Placing where
  left : Int
  top : Int
  steps : List TransformStep

namespace Placing

def declarations (placing : Placing) : Except Fault (List Declaration) := do
  let steps ← placing.steps.mapM TransformStep.text
  return [("left", s!"{placing.left}%"), ("top", s!"{placing.top}%"),
    ("transform-origin", "center"), ("transform", String.intercalate " " steps)]

/-- Where a point of the content is painted in the container. The last step of the transform comes
first. -/
def map (placing : Placing) (container content : Size Rat) : Affine Rat :=
  let centered := placing.steps.foldr (fun step map => (step.map content).compose map)
    (.shift (-(content.width / 2)) (-(content.height / 2)))
  let corner := Affine.shift (placing.left / 100 * container.width)
    (placing.top / 100 * container.height)
  corner.compose
    ((Affine.shift (content.width / 2) (content.height / 2)).compose centered)

/-- The element in the middle of its container. -/
def centered (linear : Linear Rat) : Placing :=
  ⟨50, 50, [.translate (-50) (-50), .matrix linear]⟩

theorem map_centered (linear : Linear Rat) (container content : Size Rat) :
    (centered linear).map container content = .around linear container content := by
  simp only [map, centered, List.foldr, TransformStep.map, Affine.around, Affine.shift_eq,
    Affine.ofParts, Affine.compose, Affine.mk.injEq]
  push_cast
  refine ⟨?_, ?_, ?_, ?_, ?_, ?_⟩ <;> ring

/-- The inner element of a wrapped box is centred. -/
theorem declarations_centered {layout : Layout Rat} (wrapper : Wrapper Rat)
    (transformed : layout.transform.isIdentity = false) :
    (centered layout.transform).declarations = Render.centeringDeclarations layout wrapper := by
  have center : s!"translate({(-50 : Int)}%,{(-50 : Int)}%)" = "translate(-50%,-50%)" := by decide
  have half : s!"{(50 : Int)}%" = "50%" := by decide
  simp only [Render.centeringDeclarations, transformed, Bool.false_eq_true, and_false, if_false,
    declarations, centered, List.mapM_cons, List.mapM_nil, TransformStep.text, center, half]
  cases linearMatrix layout.transform with
  | error fault => rfl
  | ok matrix => rfl

end Placing

end Css

/-! ### Items that reserve their extent -/

/-- What a box reserves is the extent of its corners. -/
theorem reservedSize_eq {map : Affine Rat} {size : Size Rat}
    (reserves : needsReservation map = true) : reservedSize map size =
      ⟨((Affine.ofParts map.linear 0 0).extent size).width,
        ((Affine.ofParts map.linear 0 0).extent size).height⟩ := by
  rw [reservedSize, if_pos reserves]
  simp only [scalarAbs_rat]
  rfl

/-- In the flow a box takes what it reserves, and keeps its size in a wrapper where the two
differ. -/
theorem Layout.footprint_reserved {kind : NodeKind} (other : kind ≠ .svg) (node : NodeProps Rat)
    (flow : Flow) (place : Place Rat) (map : Affine Rat) (size : Size Rat) :
    (inFlow node kind flow place map size).footprint =
      { position := .relative, left := 0, top := 0, size := reservedSize map size
        origin := .center, transform := place.transform
        content := if (reservedSize map size).width ≠ size.width ∨
            (reservedSize map size).height ≠ size.height then some size else none } := by
  have differ (first second : Rat) : (first == second) = false ↔ first ≠ second :=
    beq_eq_false_iff_ne
  rw [footprint_inFlow, flowSize, if_neg other, zero_rat]
  simp only [differ]
  split <;> rfl

/-- Around the centre of its extent a box ends where the extent does. -/
theorem Affine.extent_around (linear : Linear Rat) (content : Size Rat) {reserved : Size Rat}
    (extent : reserved = ⟨((ofParts linear 0 0).extent content).width,
      ((ofParts linear 0 0).extent content).height⟩) :
    (around linear reserved content).extent content = ⟨0, 0, reserved.width, reserved.height⟩ := by
  subst extent
  simp only [extent, around, ofParts, shift_eq, compose, apply, Rect.mk.injEq]
  refine ⟨?_, ?_, ?_, ?_⟩ <;> ring_nf

/-- The layout of an item reserves what the item takes when it is turned. -/
structure FillsReservation (linear : Linear Rat) (size : Size Rat) (layout : Layout Rat) :
    Prop where
  placed : layout.position = .relative ∧ layout.left = 0 ∧ layout.top = 0 ∧
    layout.origin = .center ∧ layout.transform = linear
  /-- The measures are those of the bounding box of the four corners under the linear part. -/
  extents : ∃ box, IsBoundingBox ((Affine.ofParts linear 0 0).image size.corners) box ∧
    layout.width = box.width ∧ layout.height = box.height
  /-- Painted around the centre of the reserved box, the item has that as its bounding box. -/
  painted : IsBoundingBox
    ((Affine.around linear ⟨layout.width, layout.height⟩ size).image size.points)
    ⟨0, 0, layout.width, layout.height⟩
  wrapped : layout.wrapper.isSome ↔ layout.width ≠ size.width ∨ layout.height ≠ size.height
  content : ∀ wrapper ∈ layout.wrapper,
    wrapper.contentWidth = size.width ∧ wrapper.contentHeight = size.height
  /-- So the declarations of the inner element paint it, unless the linear part is taken for the
  identity. -/
  declared : ∀ wrapper ∈ layout.wrapper, linear.isIdentity = false →
    Render.centeringDeclarations layout wrapper = (Css.Placing.centered linear).declarations ∧
      (Css.Placing.centered linear).map ⟨layout.width, layout.height⟩
          ⟨wrapper.contentWidth, wrapper.contentHeight⟩ =
        .around linear ⟨layout.width, layout.height⟩ size

/-- An item of a flow that is turned, reflected or scaled unevenly fills what it reserves. -/
theorem turned_item_fills_reservation {node : NodeProps Rat} {flow : Flow}
    {parent own inverse : Affine Rat} {size : Size Rat} (flows : Bool)
    (other : NodeKind.ofNode node ≠ .svg) (here : node.absoluteTransform = some own)
    (inverted : parent.invert = some inverse) (sized : node.size = .ok size)
    (nonneg : 0 ≤ size.width ∧ 0 ≤ size.height)
    (reserves : needsReservation (inverse.compose own) = true) :
    ∃ layout, Layout.compute node flows parent (some flow) = .ok layout ∧
      FillsReservation (inverse.compose own).linear size layout := by
  obtain ⟨place, layout, computed, transform, same⟩ :=
    Layout.compute_footprint flow flows other here inverted sized
  rw [Layout.footprint_reserved other, transform] at same
  -- What the layout takes is what the node reserves, which is its extent.
  have taken : ⟨layout.width, layout.height⟩ = reservedSize (inverse.compose own) size :=
    congrArg Layout.Footprint.size same
  have extent := taken.trans (reservedSize_eq reserves)
  have content := congrArg Layout.Footprint.content same
  dsimp only at content
  rw [← taken] at content
  obtain ⟨wrapped, kept⟩ := Layout.wrapper_of_content content
  have corners := Size.corners_subset nonneg
  have turned : layout.transform = (inverse.compose own).linear :=
    congrArg Layout.Footprint.transform same
  refine ⟨layout, computed, ?placed, ?extents, ?painted, wrapped, kept, ?declared⟩
  case placed =>
    exact ⟨congrArg Layout.Footprint.position same, congrArg Layout.Footprint.left same,
      congrArg Layout.Footprint.top same, congrArg Layout.Footprint.origin same, turned⟩
  case extents =>
    exact ⟨_, Affine.boundingBox_image _ subset_rfl corners, congrArg Size.width extent,
      congrArg Size.height extent⟩
  case painted =>
    rw [← Affine.extent_around _ _ extent]
    exact Affine.boundingBox_image _ corners subset_rfl
  case declared =>
    intro wrapper member transformed
    obtain ⟨width, height⟩ := kept wrapper member
    rw [width, height]
    rw [← turned] at transformed ⊢
    exact ⟨(Css.Placing.declarations_centered wrapper transformed).symm,
      Css.Placing.map_centered _ _ _⟩

/-- A node that is turned by a quarter and stretched. -/
def stretchedItem : NodeProps Rat := plainProps "item" "RECTANGLE" ⟨0, 3 / 2, -1, 0, 30, 0⟩

/-- A row whose frame is reflected. -/
def reflectedFrame : Affine Rat := ⟨-1, 0, 0, 1, 5, 0⟩

def rowFlow : Flow := ⟨.ofMode .horizontal, none, false⟩

theorem stretched_item_fills_reservation :
    ∃ layout, Layout.compute stretchedItem false reflectedFrame (some rowFlow) = .ok layout ∧
      layout.width = 20 ∧ layout.height = 15 ∧ layout.wrapper.isSome = true ∧
      FillsReservation ⟨0, 3 / 2, 1, 0⟩ ⟨10, 20⟩ layout := by
  have regular : ¬ (Scalar.isFinite reflectedFrame.determinant = false ∨
      Scalar.abs reflectedFrame.determinant < (1e-8 : Rat)) := by decide +kernel
  have inverted : reflectedFrame.invert = some ⟨-1, 0, 0, 1, 5, 0⟩ := by
    refine (if_neg regular).trans ?_
    norm_num [reflectedFrame, Affine.determinant]
  have linear : (Affine.compose ⟨-1, 0, 0, 1, 5, 0⟩ ⟨0, 3 / 2, -1, 0, 30, 0⟩ : Affine Rat).linear =
      ⟨0, 3 / 2, 1, 0⟩ := by
    norm_num [Affine.linear, Affine.compose]
  obtain ⟨layout, computed, fills⟩ : ∃ layout,
      Layout.compute stretchedItem false reflectedFrame (some rowFlow) = .ok layout ∧
        FillsReservation _ ⟨10, 20⟩ layout :=
    turned_item_fills_reservation false (by decide +kernel) rfl inverted rfl (by decide +kernel)
      (by decide +kernel)
  rw [linear] at fills
  obtain ⟨box, bounds, width, height⟩ := fills.extents
  obtain rfl := bounds.unique (Affine.boundingBox_image _ subset_rfl
    (Size.corners_subset (by decide +kernel)))
  norm_num [Affine.extent, Affine.ofParts] at width height
  refine ⟨layout, computed, width, height, fills.wrapped.mpr ?_, fills⟩
  norm_num [width, height]

end Artboard
