import Artboard.Affine
import Artboard.Proofs.Number.Rational
import Mathlib.Tactic.FieldSimp
import Mathlib.Tactic.Ring

/-!
# Affine maps over the rationals

Maps are composed like the functions that they stand for, and the maps that are
not refused have inverses, so that the laws of a group hold among them. The
tolerance alone sets them apart from a group: a product of two small determinants
can be refused.
-/
namespace Artboard.Affine

theorem shift_eq (x y : Rat) : shift x y = ⟨1, 0, 0, 1, x, y⟩ := by
  simp only [shift, one_rat, zero_rat]

theorem compose_assoc (first second third : Affine Rat) :
    (first.compose second).compose third = first.compose (second.compose third) := by
  simp only [compose, mk.injEq]
  refine ⟨?_, ?_, ?_, ?_, ?_, ?_⟩ <;> ring

theorem shift_compose (x y : Rat) (map : Affine Rat) :
    (shift x y).compose map = ⟨map.a, map.b, map.c, map.d, map.e + x, map.f + y⟩ := by
  simp only [shift_eq, compose, mk.injEq]
  refine ⟨?_, ?_, ?_, ?_, ?_, ?_⟩ <;> ring

theorem determinant_ne_zero_of_invert {map inverse : Affine Rat}
    (inverted : map.invert = some inverse) : map.determinant ≠ 0 := by
  intro zero
  have small : Scalar.abs (0 : Rat) < (1e-8 : Rat) := by decide +kernel
  simp [invert, zero, small] at inverted

/-- The coefficients of an inverse. -/
theorem invert_cases {map inverse : Affine Rat} (inverted : map.invert = some inverse) :
    inverse = ⟨map.d / map.determinant, -map.b / map.determinant, -map.c / map.determinant,
      map.a / map.determinant,
      -(map.d / map.determinant * map.e + -map.c / map.determinant * map.f),
      -(-map.b / map.determinant * map.e + map.a / map.determinant * map.f)⟩ := by
  unfold invert at inverted
  dsimp only at inverted
  split at inverted
  · contradiction
  · exact (Option.some.inj inverted).symm

theorem compose_invert {map inverse : Affine Rat} (inverted : map.invert = some inverse) :
    map.compose inverse = ⟨1, 0, 0, 1, 0, 0⟩ := by
  have regular := determinant_ne_zero_of_invert inverted
  rw [invert_cases inverted]
  simp only [compose, mk.injEq]
  generalize same : map.determinant = det at regular ⊢
  have expanded : det = map.a * map.d - map.b * map.c := same.symm
  refine ⟨?_, ?_, ?_, ?_, ?_, ?_⟩ <;> field_simp <;> rw [expanded] <;> ring

/-- A place found through the inverse is left again by the map. -/
theorem compose_invert_compose {map inverse : Affine Rat} (inverted : map.invert = some inverse)
    (other : Affine Rat) : map.compose (inverse.compose other) = other := by
  rw [← compose_assoc, compose_invert inverted]
  have identity : (⟨1, 0, 0, 1, 0, 0⟩ : Affine Rat) = shift 0 0 := (shift_eq 0 0).symm
  rw [identity, shift_compose]
  simp

/-- The map with the given linear part and offset. -/
def ofParts {α : Type} (linear : Linear α) (x y : α) : Affine α :=
  ⟨linear.a, linear.b, linear.c, linear.d, x, y⟩

/-- The linear part of the inverse, put where the inverse sends a point, is a shift to the point
for the map. -/
theorem compose_ofParts_invert {map inverse : Affine Rat} (inverted : map.invert = some inverse)
    (x y : Rat) :
    map.compose (ofParts inverse.linear (inverse.apply x y).1 (inverse.apply x y).2) =
      shift x y := by
  have moved : ofParts inverse.linear (inverse.apply x y).1 (inverse.apply x y).2 =
      inverse.compose (shift x y) := by
    simp only [ofParts, apply, linear, compose, shift_eq, mk.injEq, and_true]
    refine ⟨?_, ?_, ?_, ?_⟩ <;> ring
  rw [moved, compose_invert_compose inverted]

/-! ### The group -/

theorem identity_rat : (identity : Affine Rat) = ⟨1, 0, 0, 1, 0, 0⟩ := by
  simp only [identity, one_rat, zero_rat]

theorem identity_compose (map : Affine Rat) : identity.compose map = map := by
  simp [identity_rat, compose]

theorem compose_identity (map : Affine Rat) : map.compose identity = map := by
  simp [identity_rat, compose]

/-- The composition does to a point what the second map does and then the first. -/
theorem apply_compose (first second : Affine Rat) (x y : Rat) :
    (first.compose second).apply x y = first.apply (second.apply x y).1 (second.apply x y).2 := by
  simp only [compose, apply, Prod.mk.injEq]
  constructor <;> ring

theorem determinant_compose (first second : Affine Rat) :
    (first.compose second).determinant = first.determinant * second.determinant := by
  simp only [compose, determinant]
  ring

/-- An inverse also cancels the map from the other side. -/
theorem invert_compose {map inverse : Affine Rat} (inverted : map.invert = some inverse) :
    inverse.compose map = identity := by
  have regular := determinant_ne_zero_of_invert inverted
  rw [invert_cases inverted, identity_rat]
  simp only [compose, mk.injEq]
  generalize same : map.determinant = det at regular ⊢
  have expanded : det = map.a * map.d - map.b * map.c := same.symm
  refine ⟨?_, ?_, ?_, ?_, ?_, ?_⟩ <;> field_simp <;> rw [expanded] <;> ring

theorem determinant_invert {map inverse : Affine Rat} (inverted : map.invert = some inverse) :
    inverse.determinant * map.determinant = 1 := by
  rw [← determinant_compose, invert_compose inverted, identity_rat]
  norm_num [determinant]

/-- What a map is composed with to the identity is its inverse. -/
theorem eq_invert_of_compose {map inverse other : Affine Rat} (inverted : map.invert = some inverse)
    (cancels : map.compose other = identity) : other = inverse :=
  calc other = (inverse.compose map).compose other := by
        rw [invert_compose inverted, identity_compose]
    _ = inverse := by rw [compose_assoc, cancels, compose_identity]

/-- A composition is undone by the inverses in the opposite order. -/
theorem compose_compose_inverses {first second firstInverse secondInverse : Affine Rat}
    (inverted : first.invert = some firstInverse) (inverts : second.invert = some secondInverse) :
    (first.compose second).compose (secondInverse.compose firstInverse) = identity := by
  rw [compose_assoc, compose_invert_compose inverts, compose_invert inverted, identity_rat]

/-- A map has an inverse where its determinant is at least `1e-8` away from zero. -/
theorem exists_invert_iff {map : Affine Rat} :
    (∃ inverse, map.invert = some inverse) ↔ 1e-8 ≤ |map.determinant| := by
  have finite : Scalar.isFinite map.determinant = true := rfl
  rw [invert]
  simp only [finite, scalarAbs_rat, Bool.true_eq_false, false_or]
  split
  next small => simp [small]
  next regular => simpa using regular

/-- Composition is associative, has the identity on both sides, and moves a point by one map after
the other. Every inverse cancels its map on both sides and has the inverse determinant, and where a
composition is inverted, its inverse is that of the parts in the opposite order. Which maps are
inverted is settled by the determinant. -/
theorem maps_form_group :
    (∀ first second third : Affine Rat,
      (first.compose second).compose third = first.compose (second.compose third)) ∧
    (∀ map : Affine Rat, identity.compose map = map ∧ map.compose identity = map) ∧
    (∀ (first second : Affine Rat) (x y : Rat),
      (first.compose second).apply x y =
        first.apply (second.apply x y).1 (second.apply x y).2) ∧
    (∀ map inverse : Affine Rat, map.invert = some inverse →
      map.compose inverse = identity ∧ inverse.compose map = identity ∧
        inverse.determinant * map.determinant = 1) ∧
    (∀ first second firstInverse secondInverse inverse : Affine Rat,
      first.invert = some firstInverse → second.invert = some secondInverse →
        (first.compose second).invert = some inverse →
          inverse = secondInverse.compose firstInverse) ∧
    ∀ map : Affine Rat, (∃ inverse, map.invert = some inverse) ↔ 1e-8 ≤ |map.determinant| := by
  refine ⟨compose_assoc, fun map => ⟨identity_compose map, compose_identity map⟩, apply_compose,
    fun map inverse inverted => ⟨?_, invert_compose inverted, determinant_invert inverted⟩,
    fun first second _ _ inverse inverted inverts whole => ?_, fun _ => exists_invert_iff⟩
  · rw [compose_invert inverted, identity_rat]
  · exact (eq_invert_of_compose whole (compose_compose_inverses inverted inverts)).symm

deriving instance DecidableEq for Affine

/-- A map that turns, stretches and slants. -/
def slanted : Affine Rat := ⟨2, 1, -1, 3, 5, -7⟩

/-- The reflection that swaps the axes, moved. -/
def swapped : Affine Rat := ⟨0, 1, 1, 0, 3, 4⟩

theorem slanted_swapped_undo :
    slanted.invert = some ⟨3 / 7, -1 / 7, 1 / 7, 2 / 7, -8 / 7, 19 / 7⟩ ∧
      slanted.compose ⟨3 / 7, -1 / 7, 1 / 7, 2 / 7, -8 / 7, 19 / 7⟩ = identity ∧
      swapped.invert = some ⟨0, 1, 1, 0, -4, -3⟩ ∧
      (slanted.compose swapped).invert =
        some (compose ⟨0, 1, 1, 0, -4, -3⟩ ⟨3 / 7, -1 / 7, 1 / 7, 2 / 7, -8 / 7, 19 / 7⟩) := by
  obtain ⟨-, -, -, cancel, reverse, inverts⟩ := maps_form_group
  have first : slanted.invert = some ⟨3 / 7, -1 / 7, 1 / 7, 2 / 7, -8 / 7, 19 / 7⟩ := by
    decide +kernel
  have second : swapped.invert = some ⟨0, 1, 1, 0, -4, -3⟩ := by decide +kernel
  obtain ⟨inverse, whole⟩ := (inverts (slanted.compose swapped)).mpr (by decide +kernel)
  refine ⟨first, (cancel _ _ first).1, second, ?_⟩
  rw [whole, reverse _ _ _ _ _ first second whole]

end Artboard.Affine
