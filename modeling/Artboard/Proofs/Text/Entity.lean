import Artboard.Text.Entity

/-!
# Escaped characters

An escaping gives some characters a reference each and leaves all others alone. What
escaped texts have or lack follows from the few references.
-/
namespace Artboard.Text

/-- The references of text content. -/
def contentReferences : List (Char × List Char) :=
  [('&', "&amp;".toList), ('<', "&lt;".toList), ('>', "&gt;".toList)]

/-- Those of text content with both quotes. -/
def quoteReferences : List (Char × List Char) :=
  ('"', "&quot;".toList) :: ('\'', "&#x27;".toList) :: contentReferences

theorem contentReferences_subset : contentReferences ⊆ quoteReferences := by
  simp [quoteReferences]

/-- Those of an attribute value. -/
def attributeReferences : List (Char × List Char) :=
  [('&', "&amp;".toList), ('>', "&gt;".toList), ('"', "&quot;".toList)]

/-- Each character is written as its reference, or as itself where it has none. -/
def WritesReferences (references : List (Char × List Char)) (write : Char → List Char) : Prop :=
  ∀ c, (c, write c) ∈ references ∨ write c = [c] ∧ c ∉ references.map Prod.fst

theorem writesReferences_content : WritesReferences contentReferences escapeContentChar := by
  intro c
  unfold escapeContentChar
  split
  · exact .inl (by decide)
  · exact .inl (by decide)
  · exact .inl (by decide)
  next ampersand opens closes =>
    exact .inr ⟨rfl, by simpa [contentReferences] using ⟨ampersand, opens, closes⟩⟩

theorem writesReferences_quotes : WritesReferences quoteReferences escapeQuotesChar := by
  intro c
  unfold escapeQuotesChar
  split
  · exact .inl (by decide)
  · exact .inl (by decide)
  next quote apostrophe =>
    rcases writesReferences_content c with reference | ⟨same, plain⟩
    · exact .inl (List.mem_cons_of_mem _ (List.mem_cons_of_mem _ reference))
    · refine .inr ⟨same, ?_⟩
      simp only [quoteReferences, List.map_cons, List.mem_cons, not_or]
      exact ⟨quote, apostrophe, plain⟩

theorem writesReferences_attribute : WritesReferences attributeReferences escapeAttributeChar := by
  intro c
  unfold escapeAttributeChar
  split
  · exact .inl (by decide)
  · exact .inl (by decide)
  · exact .inl (by decide)
  next ampersand closes quote =>
    exact .inr ⟨rfl, by simpa [attributeReferences] using ⟨ampersand, closes, quote⟩⟩

namespace WritesReferences

variable {references : List (Char × List Char)} {write : Char → List Char} {c : Char}

/-- What holds of a character and of all that the references have holds of what is written. -/
theorem forall_mem (writes : WritesReferences references write) {holds : Char → Prop}
    [DecidablePred holds] (each : ∀ entry ∈ references, (entry.2.all fun d => holds d) = true)
    (own : holds c) : ∀ d ∈ write c, holds d := by
  rcases writes c with reference | ⟨same, -⟩
  · simpa using each _ reference
  · simpa [same] using own

/-- A character that the references lack is not written for another one, nor for any if it has
a reference itself. -/
theorem notMem (writes : WritesReferences references write) {d : Char}
    (apart : ∀ entry ∈ references, d ∉ entry.2) (other : d ∈ references.map Prod.fst ∨ d ≠ c) :
    d ∉ write c := by
  rcases writes c with reference | ⟨same, plain⟩
  · exact apart _ reference
  · rw [same, List.mem_singleton]
    rintro rfl
    exact other.elim plain (· rfl)

theorem notMem_flatMap (writes : WritesReferences references write) {d : Char}
    (apart : ∀ entry ∈ references, d ∉ entry.2) (special : d ∈ references.map Prod.fst)
    (text : List Char) : d ∉ text.flatMap write := by
  intro member
  obtain ⟨c, -, here⟩ := List.mem_flatMap.mp member
  exact writes.notMem apart (.inl special) here

end WritesReferences

end Artboard.Text
