import Artboard.Proofs.Css.Bag
import Artboard.Proofs.Stroke.Cases

/-!
# What a pseudo-element declares

Each pseudo-element of a stroke declares its place first. What it shows comes
after that: a drawing, a border or a gradient, with the radius of its corners.
-/
namespace Artboard

open Css Css.Declarations

variable {α : Type} [Scalar α]

/-- The properties that say where a pseudo-element lies. -/
def overlayPlaces : List String :=
  ["content", "position", "z-index", "pointer-events", "inset", "top", "right", "bottom", "left"]

theorem names_place (align : StrokeAlign) (weights : Sides α) :
    names (pseudoBase ++ insetDeclarations align weights) ⊆ overlayPlaces := by
  rw [insetDeclarations]
  split
  · simp [pseudoBase, names, overlayPlaces]
  · split
    · simp [pseudoBase, names, overlayPlaces]
    · simp [pseudoBase, names, overlayPlaces]

/-- What does not say where a pseudo-element lies is declared after its place. -/
private theorem get?_placed {name : String} (foreign : name ∉ overlayPlaces)
    (align : StrokeAlign) (weights : Sides α) (declarations : List Declaration) :
    (ofList (pseudoBase ++ insetDeclarations align weights ++ declarations)).get? name =
      (ofList declarations).get? name :=
  get?_ofList_append (mt (names_place align weights ·) foreign)

private theorem distinct_place (align : StrokeAlign) (weights : Sides α) :
    (names (pseudoBase ++ insetDeclarations align weights)).Nodup := by
  rw [insetDeclarations]
  split
  · simp [pseudoBase, names]
  · split
    · simp [pseudoBase, names]
    · simp [pseudoBase, names]

/-- A place and declarations that have nothing to do with it are all kept. -/
private theorem toList_placed {declarations : List Declaration}
    (foreign : ∀ name ∈ overlayPlaces, name ∉ names declarations)
    (distinct : (names declarations).Nodup) (align : StrokeAlign) (weights : Sides α) :
    (ofList (pseudoBase ++ insetDeclarations align weights ++ declarations)).toList =
      pseudoBase ++ insetDeclarations align weights ++ declarations := by
  refine toList_ofList ?_
  rw [names, List.map_append]
  refine List.nodup_append.mpr ⟨distinct_place align weights, distinct, ?_⟩
  rintro name place _ member rfl
  exact foreign name (names_place align weights place) member

namespace StrokeSpec

variable (spec : StrokeSpec α) (color value : String) (node : NodeProps α) (width height : α)

/-- The drawing of the dashes of a stroke. -/
def dashDrawing : String :=
  let frame := DashFrame.ofBox spec.align spec.weights.top width height
  dashSvg color spec.dashPattern frame
    (.ofFrame (node.type = "ELLIPSE") node.style.radii frame)

theorem get?_background_dashPseudo :
    (ofList (spec.dashPseudo color node width height)).get? "background" =
      some (svgDataUri (spec.dashDrawing color node width height) ++
        " 0 0/100% 100% no-repeat") := by
  rw [dashPseudo]
  rw [get?_placed (by decide)]
  rfl

theorem names_border :
    names (spec.borderDeclarations color) ⊆
      ["border", "border-style", "border-color", "border-width"] := by
  rw [borderDeclarations]
  split
  · simp [names]
  · simp [names]

theorem get?_background_borderPseudo :
    (ofList (spec.borderPseudo color node)).get? "background" = none := by
  rw [borderPseudo, List.append_assoc, get?_placed (by decide),
    get?_ofList_append (mt (spec.names_border color ·) (by decide))]
  cases grownRadius node.style.radii spec.align spec.weights <;> rfl

theorem get?_radius_borderPseudo :
    (ofList (spec.borderPseudo color node)).get? "border-radius" =
      grownRadius node.style.radii spec.align spec.weights := by
  rw [borderPseudo, List.append_assoc, get?_placed (by decide),
    get?_ofList_append (mt (spec.names_border color ·) (by decide))]
  cases grownRadius node.style.radii spec.align spec.weights <;> rfl

theorem get?_background_gradientPseudo :
    (ofList (spec.gradientPseudo value node)).get? "background" = some value := by
  rw [gradientPseudo]
  rw [get?_placed (by decide)]
  simp [ofList, setAll, get?_set]

theorem get?_radius_gradientPseudo :
    (ofList (spec.gradientPseudo value node)).get? "border-radius" =
      some ((grownRadius node.style.radii spec.align spec.weights).getD "inherit") := by
  rw [gradientPseudo]
  rw [get?_placed (by decide)]
  simp [ofList, setAll, get?_set]

/-! ### Whole bags -/

theorem toList_dashPseudo :
    (ofList (spec.dashPseudo color node width height)).toList =
      spec.dashPseudo color node width height :=
  toList_placed (by simp [overlayPlaces, names]) (by simp [names]) spec.align spec.weights

theorem toList_gradientPseudo :
    (ofList (spec.gradientPseudo value node)).toList = spec.gradientPseudo value node :=
  toList_placed (by simp [overlayPlaces, names]) (by simp [names]) spec.align spec.weights

theorem toList_borderPseudo :
    (ofList (spec.borderPseudo color node)).toList = spec.borderPseudo color node := by
  rw [borderPseudo, List.append_assoc]
  generalize grownRadius node.style.radii spec.align spec.weights = radius
  -- A border has one declaration or three, and behind it a radius or none.
  refine toList_placed ?_ ?_ spec.align spec.weights
  · rw [borderDeclarations]
    split <;> cases radius <;> simp [names, radiusDeclarations, overlayPlaces]
  · rw [borderDeclarations]
    split <;> cases radius <;> simp [names, radiusDeclarations]

end StrokeSpec

/-- Every pseudo-element lies around its box as the alignment and the weights of the stroke say. -/
theorem StrokeCss.Overlaid.insets {node : NodeProps α} {spec : StrokeSpec α} {bag : Declarations}
    (overlaid : Overlaid node spec bag) :
    ∀ declaration ∈ insetDeclarations spec.align spec.weights,
      bag.get? declaration.1 = some declaration.2 := by
  intro declaration member
  rw [get?_eq_some_iff]
  cases overlaid with
  | ring =>
    rw [StrokeSpec.toList_gradientPseudo]
    exact List.mem_append_left _ (List.mem_append_right _ member)
  | dashes =>
    rw [StrokeSpec.toList_dashPseudo]
    exact List.mem_append_left _ (List.mem_append_right _ member)
  | border =>
    rw [StrokeSpec.toList_borderPseudo, StrokeSpec.borderPseudo, List.append_assoc]
    exact List.mem_append_left _ (List.mem_append_right _ member)

end Artboard
