import Artboard.Text.Case

/-!
# Small letters

A text that becomes a plain word in small letters is that word up to the case of the
letters from A to Z: none of its other characters becomes a letter of a plain word.
-/
namespace Artboard.Text

/-- The text with small letters for its capitals from A to Z. -/
def plainLower (text : String) : String := String.ofList (text.toList.map Char.toLower)

/-- A character that only it and its capital become in small letters. The sign of the Kelvin
becomes a `k`, and codes without a character become zero. -/
def IsPlainLetter (c : Char) : Prop := c.toNat < 0x80 ∧ c ≠ 'k' ∧ c ≠ '\x00'

instance (c : Char) : Decidable (IsPlainLetter c) :=
  inferInstanceAs (Decidable (_ ∧ _ ∧ _))

/-- A word of plain letters. -/
def IsPlainWord (word : String) : Prop := ∀ c ∈ word.toList, IsPlainLetter c

-- The letters of the word are asked one after the other, not all characters that there are.
instance (word : String) : Decidable (IsPlainWord word) :=
  List.decidableBAll IsPlainLetter word.toList

/-- Beyond the letters from A to Z, every run of capitals has small letters beyond them too, but
for the sign of the Kelvin. -/
private theorem lowerRuns_plain : ∀ run ∈ lowerRuns,
    run.last < 0x80 ∨ 0x80 ≤ (run.first : Int) + run.shift ∨
      (run.first = run.last ∧ (run.first : Int) + run.shift = 'k'.toNat) := by
  decide +kernel

private theorem toNat_ofNat {code : Nat} (other : Char.ofNat code ≠ '\x00') :
    (Char.ofNat code).toNat = code := by
  by_cases valid : code.isValidChar
  · rw [Char.ofNat, dif_pos valid]
    rfl
  · exact absurd (dif_neg valid) other

private theorem mapCase_plain {c : Char} (beyond : 0x80 ≤ c.toNat) :
    ∃ small ∈ mapCase lowerRuns lowerExpansions c, ¬ IsPlainLetter small := by
  rw [mapCase]
  split
  next codes found =>
    -- The only letter that becomes two keeps its dot as the second one.
    have dotted : codes = [0x69, 0x307] := by
      rw [lowerExpansions, List.lookup_cons, List.lookup_nil] at found
      split at found
      · exact (Option.some.inj found).symm
      · cases found
    subst dotted
    exact ⟨Char.ofNat 0x307, by simp, by decide⟩
  next =>
    split
    next run found =>
      refine ⟨_, List.mem_singleton.mpr rfl, fun plain => ?_⟩
      obtain ⟨low, other, valid⟩ := plain
      have covers := List.find?_some found
      simp only [CaseRun.covers, Bool.and_eq_true, decide_eq_true_eq, beq_iff_eq] at covers
      have code := toNat_ofNat valid
      rcases lowerRuns_plain run (List.mem_of_find?_eq_some found) with before | after | kelvin
      · omega
      · omega
      · have same : ((c.toNat : Int) + run.shift).toNat = 'k'.toNat := by omega
        exact other (by rw [same]; rfl)
    next => exact ⟨c, List.mem_singleton.mpr rfl, fun plain => by have := plain.1; omega⟩

private theorem lowerChar_eq_toLower {c : Char}
    (plain : ∀ small ∈ lowerChar c, IsPlainLetter small) : lowerChar c = [c.toLower] := by
  unfold lowerChar at plain ⊢
  split
  · rfl
  next beyond =>
    rw [if_neg beyond] at plain
    obtain ⟨small, member, other⟩ := mapCase_plain (Nat.le_of_not_lt beyond)
    exact absurd (plain small member) other

private theorem map_toLower_of_lowerFrom {before text word : List Char}
    (plain : ∀ c ∈ word, IsPlainLetter c) (same : lowerFrom before text = word) :
    text.map Char.toLower = word := by
  induction text generalizing before word with
  | nil => exact same
  | cons c rest ih =>
    rw [lowerFrom] at same
    obtain rfl := same
    obtain ⟨first, others⟩ := List.forall_mem_append.mp plain
    have later := ih others rfl
    split at first
    · -- A sigma becomes a sigma, whichever of the two it is.
      exfalso
      split at first <;> exact absurd (first _ (.head _)) (by decide)
    next other =>
      rw [if_neg other, lowerChar_eq_toLower first, List.map_cons, later]
      rfl

/-- A text of small letters below `0x80` is in small letters already. -/
theorem lower_eq_self {text : List Char} (small : ∀ c ∈ text, c.toNat < 0x80 ∧ c.toLower = c) :
    lower text = text := by
  have kept (before : List Char) : lowerFrom before text = text := by
    induction text generalizing before with
    | nil => rfl
    | cons c rest ih =>
      obtain ⟨⟨low, same⟩, small⟩ := List.forall_mem_cons.mp small
      have other : c ≠ capitalSigma := by
        rintro rfl
        exact absurd low (by decide)
      rw [lowerFrom, if_neg other, lowerChar, if_pos low, same, ih small, List.singleton_append]
  exact kept []

/-- What becomes a plain word in small letters is that word up to the case of its letters. -/
theorem plainLower_of_lowerText {text word : String} (plain : IsPlainWord word)
    (same : lowerText text = word) : plainLower text = word := by
  have letters : lower text.toList = word.toList := by rw [← same, lowerText, String.toList_ofList]
  rw [plainLower, map_toLower_of_lowerFrom plain letters, String.ofList_toList]

end Artboard.Text
