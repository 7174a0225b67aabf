import Artboard.Classes.Semantic
import Artboard.Proofs.Classes.Utility
import Artboard.Proofs.Text.Ends

/-!
# Classes of names

A class that is made from a name holds small letters, digits, underscores and
hyphens, and says something: it is no generic name. Of the utility classes it can
only be one without a length.
-/
namespace Artboard.Classes

/-! ### Characters -/

private theorem collapse_subset (text : List Char) : collapse text ⊆ text := by
  fun_induction collapse text with
  | case1 rest ih => exact fun c member => .tail _ (ih member)
  | case2 c rest _ ih => exact List.cons_subset_cons c ih
  | case3 => exact List.Subset.refl _

/-- A name keeps only the characters of classes. -/
theorem isClassChar_of_mem_sanitizeChars {name : List Char} :
    ∀ c ∈ sanitizeChars name, isClassChar c = true := by
  intro c member
  have taken := List.mem_of_mem_take ((Text.isInfix_stripped _ _).subset member)
  exact (List.mem_filter.mp (collapse_subset _ ((Text.isInfix_stripped _ _).subset taken))).2

/-! ### Classes -/

/-- The class of a name is the fallback, a token that says something, or both. -/
theorem semantic_cases (name fallback : String) :
    semantic name fallback = fallback ∨
      isUninformative (sanitizeChars name.toList) = false ∧
        (semantic name fallback = String.ofList (sanitizeChars name.toList) ∨
          semantic name fallback =
            fallback ++ "-" ++ String.ofList (sanitizeChars name.toList)) := by
  rw [semantic]
  split
  · exact .inl rfl
  next informative =>
    refine .inr ⟨by simpa using informative, ?_⟩
    split
    · exact .inr rfl
    · exact .inl rfl

/-- With a plain fallback, the class of a name is plain. -/
theorem isClassChar_of_mem_semantic {name fallback : String}
    (plain : ∀ c ∈ fallback.toList, isClassChar c = true) :
    ∀ c ∈ (semantic name fallback).toList, isClassChar c = true := by
  have token : ∀ c ∈ sanitizeChars name.toList, isClassChar c = true :=
    isClassChar_of_mem_sanitizeChars
  rcases semantic_cases name fallback with same | ⟨-, same | same⟩ <;> rw [same]
  · exact plain
  · rwa [String.toList_ofList]
  · have hyphen : isClassChar '-' = true := by decide
    simp only [String.toList_append, String.toList_ofList, List.forall_mem_append]
    exact ⟨⟨plain, by simpa using hyphen⟩, token⟩

theorem hyphen_notMem_generic : ∀ {word : String}, word ∈ genericNames → '-' ∉ word.toList := by
  decide +kernel

/-- A class without a bracket that stands for a declaration has a name of its own. -/
theorem mem_simple_of_declarationOf {name : String} {declaration : Css.Declaration}
    (known : declarationOf name = some declaration) (plain : '[' ∉ name.toList) :
    name ∈ simpleUtilities.map Prod.snd := by
  rcases declarationOf_cases known with member | ⟨start, -, length, whole⟩
  · exact List.mem_map_of_mem member
  · refine absurd ?_ plain
    rw [← whole]
    simp

/-- Of the utility classes, a name can only make one without a length. -/
theorem mem_simple_of_semantic {name fallback : String} {declaration : Css.Declaration}
    (plain : ∀ c ∈ fallback.toList, isClassChar c = true)
    (known : declarationOf (semantic name fallback) = some declaration) :
    semantic name fallback ∈ simpleUtilities.map Prod.snd := by
  refine mem_simple_of_declarationOf known fun bracket => ?_
  have special : isClassChar '[' = false := by decide
  have kept := isClassChar_of_mem_semantic plain _ bracket
  simp [special] at kept

end Artboard.Classes
