import Artboard.Proofs.Typography.WellFormed
import Artboard.Proofs.Typography.Spelling

/-!
# The plain text of a text

Markup that is not well formed is shown without its tags and with its references
read. For the markup of a text this gives the runs back character by character, but
a line break is a tag, so that it goes with the tags.
-/
namespace Artboard

/-! ### References -/

namespace Text

/-- A name of markup with its semicolon is found before any other name. -/
private theorem reference_closed (name : List Char) {isBare : Bool} {meaning : List Char}
    (letters : name.all isReferenceChar = true) (short : name.length ≤ maxNameLength)
    (found : markupNames.find? (fun entry => entry.name == name) = some ⟨name, isBare, meaning⟩)
    (rest : List Char) :
    reference (name ++ ';' :: rest) = some (meaning, name.length + 1) := by
  have taken : (name ++ ';' :: rest).takeWhile isReferenceChar = name := by
    rw [List.takeWhile_append_of_pos (List.all_eq_true.mp letters)]
    simp [isReferenceChar]
  have closed : (name ++ ';' :: rest)[name.length]? = some ';' := by simp
  have known : characterNames.find? (fun entry => entry.name == name) =
      some ⟨name, isBare, meaning⟩ := by
    rw [characterNames, List.find?_append, found, Option.some_or]
  -- A reference by number starts with a mark that no name contains.
  have byName : reference (name ++ ';' :: rest) = namedReference (name ++ ';' :: rest) := by
    cases name with
    | nil => rw [List.nil_append, reference] <;> simp
    | cons c name =>
      have other : c ≠ '#' := by
        rintro rfl
        simp [isReferenceChar] at letters
      rw [List.cons_append, reference]
      all_goals simp [other]
  simp only [byName, namedReference, taken, List.take_of_length_le short, closed, if_true, known]

theorem unescapeFrom_drop (skip : Nat) (text : List Char) :
    unescapeFrom skip text = unescapeFrom 0 (text.drop skip) := by
  induction skip generalizing text with
  | zero => rfl
  | succ skip ih =>
    cases text with
    | nil => rfl
    | cons c rest => exact ih rest

/-- An escaped character is read again. -/
theorem unescape_escapeContentChar (c : Char) (rest : List Char) :
    unescape (escapeContentChar c ++ rest) = c :: unescape rest := by
  have named (name : List Char) {c : Char}
      (known : reference (name ++ ';' :: rest) = some ([c], name.length + 1)) :
      unescape ('&' :: name ++ ';' :: rest) = c :: unescape rest := by
    have skipped : (name ++ ';' :: rest).drop (name.length + 1) = rest := by simp
    rw [unescape, List.cons_append, unescapeFrom, if_pos rfl, known]
    dsimp only
    rw [unescapeFrom_drop, skipped]
    rfl
  rw [escapeContentChar.eq_def]
  split
  · exact named "amp".toList (reference_closed _ (by decide) (by decide) rfl rest)
  · exact named "lt".toList (reference_closed _ (by decide) (by decide) rfl rest)
  · exact named "gt".toList (reference_closed _ (by decide) (by decide) rfl rest)
  next refers _ _ => rw [List.singleton_append, unescape, unescapeFrom, if_neg refers]; rfl

/-- Reading the references of escaped content gives the content. -/
theorem unescape_escapeContent (text : List Char) : unescape (escapeContent text) = text := by
  induction text with
  | nil => rfl
  | cons c rest ih =>
    have step := unescape_escapeContentChar c (escapeContent rest)
    rw [ih] at step
    exact step

end Text

/-! ### Tags -/

namespace Markup

/-- Without its tags the text is the other one, however much fuel there is. -/
def Strips (text plain : List Char) : Prop :=
  ∀ fuel, text.length ≤ fuel → dropTags fuel text = plain

namespace Strips

variable {text plain : List Char}

theorem nil : Strips [] [] := by
  rintro (_ | fuel) -
  · rfl
  · rfl

theorem char {c : Char} (other : c ≠ '<') (strips : Strips text plain) :
    Strips (c :: text) (c :: plain) := by
  rintro (_ | fuel) enough
  · simp at enough
  · have rest := strips fuel (by simpa using enough)
    rw [dropTags]
    · rw [rest]
    · simpa using other

/-- Characters that open no tag stay. -/
theorem append {run : List Char} (closed : '<' ∉ run) (strips : Strips text plain) :
    Strips (run ++ text) (run ++ plain) := by
  induction run with
  | nil => exact strips
  | cons c run ih =>
    simp only [List.mem_cons, not_or] at closed
    exact char (Ne.symm closed.1) (ih closed.2)

/-- A tag goes, whatever stands in it. -/
theorem tag (inner : List Char) (inhabited : inner ≠ []) (inside : '>' ∉ inner)
    (strips : Strips text plain) : Strips ('<' :: inner ++ '>' :: text) plain := by
  have taken : (inner ++ '>' :: text).takeWhile (· != '>') = inner := by
    rw [List.takeWhile_append_of_pos]
    · simp
    · intro c member
      have other : c ≠ '>' := fun same => inside (same ▸ member)
      simpa using other
  have filled : inner.isEmpty = false := by simpa using inhabited
  rintro (_ | fuel) enough
  · simp at enough
  · have rest := strips fuel (by simp at enough; omega)
    rw [List.cons_append, dropTags]
    simp only [taken, List.drop_left, filled]
    exact rest

end Strips

end Markup

/-! ### Texts -/

namespace Typography

open Markup

/-- Escaped content opens no tag. -/
private theorem open_notMem_escapeContentChar (c : Char) : '<' ∉ Text.escapeContentChar c :=
  Text.writesReferences_content.notMem (by decide) (.inl (by decide))

/-- An escaped style closes no tag. -/
private theorem close_notMem_escapeQuotes (style : List Char) : '>' ∉ Text.escapeQuotes style :=
  Text.writesReferences_quotes.notMem_flatMap (by decide) (by decide) style

/-- What is left of the text when its line breaks are taken out. -/
def withoutBreaks (text : List Char) : List Char := text.filter (· ≠ '\n')

/-- Of the markup of a run the line breaks are tags, and nothing else is. -/
private theorem strips_runMarkup (run : List Char) {text plain : List Char}
    (strips : Strips text plain) :
    Strips (runMarkup run ++ text) (Text.escapeContent (withoutBreaks run) ++ plain) := by
  induction run with
  | nil => exact strips
  | cons c run ih =>
    rw [runMarkup_cons, List.append_assoc]
    split
    next breaks =>
      subst breaks
      exact Strips.tag "br/".toList (by decide) (by decide) ih
    next other =>
      have kept : withoutBreaks (c :: run) = c :: withoutBreaks run :=
        List.filter_cons_of_pos (by simpa using other)
      rw [kept, Text.escapeContent, List.flatMap_cons, List.append_assoc]
      exact ih.append (open_notMem_escapeContentChar c)

variable {α : Type} [Scalar α]

/-- The characters that the markup of a text is written for: the runs of its segments one after
the other, or all characters where it has no segments. -/
def shownRuns (text : TextData α) : List Char :=
  if text.segments.isEmpty then text.characters.toList
  else (text.segments.map (segmentRun text.characters.toList)).flatten

private theorem strips_segmentMarkup {characters part text plain : List Char}
    {segment : TextSegment α} (written : segmentMarkup characters segment = .ok part)
    (strips : Strips text plain) :
    Strips (part ++ text)
      (Text.escapeContent (withoutBreaks (segmentRun characters segment)) ++ plain) := by
  obtain ⟨bag, -, rfl⟩ := segmentMarkup_cases written
  have ended : Strips ("</span>".toList ++ text) plain :=
    Strips.tag "/span".toList (by decide) (by decide) strips
  have run := strips_runMarkup (segmentRun characters segment) ended
  have inside : '>' ∉
      "span style=\"".toList ++ Text.escapeQuotes bag.serialize.toList ++ ['"'] := by
    simp [close_notMem_escapeQuotes]
  have opened := Strips.tag _ (by simp) inside run
  simpa [segmentRun] using opened

private theorem strips_segments {characters text plain : List Char}
    {segments : List (TextSegment α)} {parts : List (List Char)}
    (written : List.Forall₂ (fun segment part => segmentMarkup characters segment = .ok part)
      segments parts) (strips : Strips text plain) :
    Strips (parts.flatten ++ text) (Text.escapeContent
      (withoutBreaks (segments.map (segmentRun characters)).flatten) ++ plain) := by
  induction written with
  | nil => exact strips
  | cons first _ ih =>
    have shown := strips_segmentMarkup first ih
    simpa [withoutBreaks, Text.escapeContent] using shown

/-- Of the body of a text the runs are left, escaped as they were. -/
private theorem strips_body {text : TextData α} {body rest plain : List Char}
    (written : BodyMarkup text body) (strips : Strips rest plain) :
    Strips (body ++ rest) (Text.escapeContent (withoutBreaks (shownRuns text)) ++ plain) := by
  cases written with
  | run none =>
    rw [shownRuns, none]
    exact strips_runMarkup _ strips
  | segments inhabited visited =>
    rw [shownRuns, if_neg (by simpa using inhabited)]
    exact strips_segments visited strips

/-- The plain text of the markup of a text is made of its runs, without the line breaks. -/
theorem plainText_textMarkup {text : TextData α} {wrap : Bool} {markup : String}
    (written : textMarkup text wrap = .ok markup) :
    plainText markup.toList = withoutBreaks (shownRuns text) := by
  obtain ⟨body, bodied, spelled⟩ := textMarkup_cases written
  have strips : Strips markup.toList (Text.escapeContent (withoutBreaks (shownRuns text))) := by
    rw [spelled]
    split
    · have ended : Strips ("</div>".toList ++ []) [] :=
        Strips.tag "/div".toList (by decide) (by decide) .nil
      have block := Strips.tag "div".toList (by decide) (by decide) (strips_body bodied ended)
      simpa using block
    · simpa using strips_body bodied .nil
  rw [plainText, strips _ (Nat.le_refl _), Text.unescape_escapeContent]

end Typography

end Artboard
