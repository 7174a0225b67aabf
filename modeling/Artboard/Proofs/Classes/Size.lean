import Artboard.Proofs.Classes.Shared
import Artboard.Proofs.Classes.Utility

/-!
# Size classes

A written length becomes a class where it was counted more than once, and its
class is told apart from every other class by its name.
-/
namespace Artboard.Classes

/-! ### Counts -/

namespace Counts

private theorem count_increment (text other : String) (counts : Counts) :
    (increment other counts).count text =
      counts.count text + if other = text then 1 else 0 := by
  induction counts with
  | nil =>
    by_cases same : other = text
    · simp [increment, count, same]
    · have differ : (text == other) = false := by simpa using Ne.symm same
      simp [increment, count, List.lookup_cons, same, differ]
  | cons first rest ih =>
    obtain ⟨known, times⟩ := first
    simp only [count] at ih ⊢
    rw [increment]
    split
    next found =>
      subst found
      by_cases same : known = text
      · simp [same]
      · have differ : (text == known) = false := by simpa using Ne.symm same
        simp [List.lookup_cons, same, differ]
    next apart =>
      rw [List.lookup_cons, List.lookup_cons]
      cases same : text == known with
      | true =>
        obtain rfl := beq_iff_eq.mp same
        simp [Ne.symm apart]
      | false => exact ih

/-- A text is counted as often as it occurs. -/
theorem count_ofList (texts : List String) (text : String) :
    (ofList texts).count text = texts.count text := by
  have folded (counts : Counts) :
      (texts.foldl (fun counts text => increment text counts) counts).count text =
        counts.count text + texts.count text := by
    induction texts generalizing counts with
    | nil => rfl
    | cons first rest ih =>
      rw [List.foldl_cons, ih, count_increment, List.count_cons, Nat.add_assoc, Nat.add_comm
        (if first = text then 1 else 0)]
      simp only [beq_iff_eq]
  exact (folded []).trans (Nat.zero_add _)

end Counts

/-- A length is turned into a class where it was written more than once. -/
theorem SizeFrequency.recurring_eq_some_iff {texts : List String} {start name : String}
    {written : Option String} :
    recurring (.ofList texts) start written = some name ↔
      ∃ number, written = some number ∧ 2 ≤ texts.count number ∧
        pixelClass start number = name := by
  rw [recurring, Option.bind_eq_some_iff]
  refine exists_congr fun number => and_congr_right fun _ => ?_
  have twice : 1 < texts.count number ↔ 2 ≤ texts.count number := Iff.rfl
  rw [Counts.count_ofList]
  split <;> simp_all

/-! ### Names -/

theorem toList_pixelClass (start number : String) :
    (pixelClass start number).toList =
      start.toList ++ '-' :: '[' :: (number.toList ++ ['p', 'x', ']']) := by
  change (start ++ "-[" ++ number ++ "px]").toList = _
  simp

theorem pixelClass_inj {start first second : String} :
    pixelClass start first = pixelClass start second ↔ first = second := by
  refine ⟨fun same => ?_, fun same => by rw [same]⟩
  have chars := congrArg String.toList same
  simp only [toList_pixelClass, List.append_cancel_left_eq, List.cons.injEq, true_and,
    List.append_cancel_right_eq] at chars
  exact String.toList_injective chars

/-- The starts of size classes. -/
def sizeStarts : List String := ["w", "h"]

/-- A size class has another first letter than classes of gaps and shared classes. -/
private theorem head_pixelClass {start : String} (size : start ∈ sizeStarts) (number : String) :
    ∃ rest, (pixelClass start number).toList = 'w' :: rest ∨
      (pixelClass start number).toList = 'h' :: rest := by
  rw [toList_pixelClass]
  simp only [sizeStarts, List.mem_cons, List.not_mem_nil, or_false] at size
  rcases size with rfl | rfl
  · exact ⟨_, .inl rfl⟩
  · exact ⟨_, .inr rfl⟩

theorem pixelClass_width_ne_height (first second : String) :
    pixelClass "w" first ≠ pixelClass "h" second := by
  intro same
  have chars := congrArg String.toList same
  rw [toList_pixelClass, toList_pixelClass] at chars
  simp at chars

/-- No layout declaration becomes a size class. -/
theorem utilityClass?_ne_pixelClass {start : String} (size : start ∈ sizeStarts) (number : String)
    (declaration : Css.Declaration) :
    utilityClass? declaration ≠ some (pixelClass start number) := by
  intro classed
  rw [utilityClass?] at classed
  split at classed
  next found =>
    -- A class with a name of its own has no bracket in it.
    obtain rfl := Option.some.inj classed
    apply bracket_notMem_simple _ (mem_of_lookup found)
    rw [toList_pixelClass]
    simp
  · split at classed
    next measured =>
      simp only [Bool.and_eq_true, List.contains_iff_mem] at measured
      obtain ⟨gap, known, same⟩ := Option.map_eq_some_iff.mp classed
      have starts : ∀ entry ∈ lengthUtilities, entry.1 ∈ gapProperties →
          ∃ rest, entry.2.toList = 'g' :: rest := by
        simp [lengthUtilities, gapProperties]
      obtain ⟨rest, begins⟩ := starts _ (mem_of_lookup known) measured.1
      have chars := congrArg String.toList same
      rw [toList_lengthClass, begins] at chars
      obtain ⟨_, width | height⟩ := head_pixelClass size number
      · simp [width] at chars
      · simp [height] at chars
    · contradiction

theorem sharedName_ne_pixelClass {start : String} (size : start ∈ sizeStarts)
    (number key : String) : sharedName key ≠ pixelClass start number := by
  intro same
  have shared := prefix_sharedName key
  rw [same] at shared
  obtain ⟨_, width | height⟩ := head_pixelClass size number
  · simp [width] at shared
  · simp [height] at shared

end Artboard.Classes
