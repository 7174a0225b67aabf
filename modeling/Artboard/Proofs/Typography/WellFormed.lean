import Artboard.Proofs.Markup.Readable
import Artboard.Proofs.Scene.Settled
import Artboard.Proofs.Typography.Reading

/-!
# Texts with well-formed markup

Whatever a text spells, its markup is well formed as long as a document may contain
its characters and those of its fonts. Carriage returns are left out, as they are
not kept where a document is read.
-/
namespace Artboard.Typography

open Markup

/-- A document may contain the text and keeps it as it is. -/
def Kept (text : List Char) : Prop := ∀ c ∈ text, isDocumentChar c = true ∧ c ≠ '\r'

instance (text : List Char) : Decidable (Kept text) :=
  List.decidableBAll (fun c => isDocumentChar c = true ∧ c ≠ '\r') text

namespace Kept

variable {text rest : List Char}

theorem append (first : Kept text) (second : Kept rest) : Kept (text ++ rest) :=
  List.forall_mem_append.mpr ⟨first, second⟩

theorem notMem (kept : Kept text) : '\r' ∉ text := fun member => (kept _ member).2 rfl

theorem all (kept : Kept text) : text.all isDocumentChar = true :=
  List.all_eq_true.mpr fun c member => (kept c member).1

private theorem flatMap {write : Char → List Char} (kept : Kept text)
    (each : ∀ c, isDocumentChar c = true → c ≠ '\r' → Kept (write c)) :
    Kept (text.flatMap write) := by
  intro c member
  obtain ⟨other, inside, here⟩ := List.mem_flatMap.mp member
  exact each other (kept other inside).1 (kept other inside).2 c here

private theorem escapeContentChar {c : Char} (valid : isDocumentChar c = true) (other : c ≠ '\r') :
    Kept (Text.escapeContentChar c) :=
  Text.writesReferences_content.forall_mem (by decide) ⟨valid, other⟩

theorem escapeQuotes (kept : Kept text) : Kept (Text.escapeQuotes text) :=
  kept.flatMap fun _ valid other =>
    Text.writesReferences_quotes.forall_mem (by decide) ⟨valid, other⟩

theorem runMarkup (kept : Kept text) : Kept (runMarkup text) := by
  refine kept.flatMap fun c valid other => ?_
  split
  · decide
  · exact escapeContentChar valid other

end Kept

/-! ### Runs -/

/-- No closing angle bracket stands at the start of a run that is in front of a tag. -/
private theorem runMarkup_ne_close {run text : List Char} (tag : text.head? = some '<')
    (more : List Char) : runMarkup run ++ text ≠ '>' :: more := by
  intro same
  cases run with
  | nil =>
    have first : text = '>' :: more := same
    rw [first] at tag
    cases tag
  | cons c run =>
    rcases runMarkup_cons_cases same with marked | ⟨same, -, closes, -⟩
    · revert marked
      decide
    · exact closes same.symm

/-- The end of a section of characters is not in a run, as its angle bracket is escaped. -/
private theorem runMarkup_ne_section {run text : List Char} (tag : text.head? = some '<')
    (more : List Char) : runMarkup run ++ text ≠ ']' :: '>' :: more := by
  intro same
  cases run with
  | nil =>
    have first : text = ']' :: '>' :: more := same
    rw [first] at tag
    cases tag
  | cons c run =>
    rcases runMarkup_cons_cases same with marked | ⟨-, -, -, rest⟩
    · revert marked
      decide
    · exact runMarkup_ne_close tag more rest

/-- A run may stand in front of a tag. -/
theorem readable_runMarkup {run : List Char} {text rest : Rest} (kept : Kept run)
    (tag : text.head? = some '<') (later : Readable text rest) :
    Readable (runMarkup run ++ text) rest := by
  -- Each kind of character is one step of the reader; a closing bracket needs to know what follows.
  induction run with
  | nil => exact later
  | cons c run ih =>
    obtain ⟨⟨valid, -⟩, others⟩ := List.forall_mem_cons.mp kept
    have more := ih others
    rw [runMarkup_cons, List.append_assoc]
    split
    · exact Readable.element (by decide) (ReadableElement.closed isName_br _) more
    rcases Text.writesReferences_content c with special | ⟨same, ordinary⟩
    · obtain ⟨written, reference, same, refers, means⟩ :=
        reference?_of_mem (Text.contentReferences_subset special)
      rw [same]
      exact Readable.reference (refers _) means more
    · rw [same]
      by_cases bracket : c = ']'
      · subst bracket
        exact Readable.bracket (runMarkup_ne_section tag) more
      · have plain : isPlainChar c = true := by
          simp only [isPlainChar, Bool.and_eq_true, bne_iff_ne]
          refine ⟨⟨⟨valid, ?_⟩, ?_⟩, bracket⟩ <;> rintro rfl <;> exact ordinary (by decide)
        exact Readable.plain plain more

/-! ### Segments -/

variable {α : Type} [Scalar α]

/-- A document keeps the characters of the fonts. -/
def KeepsFamilies (segment : TextSegment α) : Prop :=
  ∀ font ∈ segment.fontName, Kept font.family.toList

private theorem kept_segmentCss {segment : TextSegment α} {bag : Css.Declarations}
    (families : KeepsFamilies segment) (styled : segmentCss segment = .ok bag) :
    Kept bag.serialize.toList := by
  intro c member
  rcases mem_serialize_segmentCss styled member with style | ⟨font, known, inside⟩
  · have bounds := bounds_of_isStyleChar style
    constructor
    · simp only [isDocumentChar, Bool.or_eq_true, Bool.and_eq_true, decide_eq_true_eq, bne_iff_ne]
      omega
    · rintro rfl
      cases style
  · exact families font known c inside

private theorem Kept.slice {characters : List Char} (kept : Kept characters) (start stop : Int) :
    Kept (slice characters start stop) :=
  fun c member => kept c (List.mem_of_mem_take (List.mem_of_mem_drop member))

/-- The markup of a segment as its tag, its run and its end. -/
theorem segmentMarkup_cases {characters part : List Char} {segment : TextSegment α}
    (written : segmentMarkup characters segment = .ok part) :
    ∃ bag, segmentCss segment = .ok bag ∧
      part = "<span style=\"".toList ++ Text.escapeQuotes bag.serialize.toList ++ "\">".toList ++
        runMarkup (slice characters segment.start (segment.stop.getD characters.length)) ++
          "</span>".toList := by
  obtain ⟨bag, styled, written⟩ := Except.bind_eq_ok_iff.mp written
  cases written
  exact ⟨bag, styled, rfl⟩

private theorem kept_segmentMarkup {characters part : List Char} {segment : TextSegment α}
    (kept : Kept characters) (families : KeepsFamilies segment)
    (written : segmentMarkup characters segment = .ok part) : Kept part := by
  obtain ⟨bag, styled, rfl⟩ := segmentMarkup_cases written
  have style := (kept_segmentCss families styled).escapeQuotes
  have run := (kept.slice segment.start (segment.stop.getD characters.length)).runMarkup
  have opens : Kept "<span style=\"".toList := by decide
  have tagged : Kept "\">".toList := by decide
  have ends : Kept "</span>".toList := by decide
  exact (((opens.append style).append tagged).append run).append ends

/-- The markup of a segment may stand in front of content. -/
private theorem readable_segmentMarkup {characters part : List Char} {segment : TextSegment α}
    {text rest : Rest} (kept : Kept characters) (families : KeepsFamilies segment)
    (written : segmentMarkup characters segment = .ok part) (later : Readable text rest) :
    Readable (part ++ text) rest := by
  obtain ⟨bag, styled, rfl⟩ := segmentMarkup_cases written
  obtain ⟨meant, known⟩ := exists_value_escapeQuotes bag.serialize.toList
  have run := readable_runMarkup
    (kept.slice segment.start (segment.stop.getD characters.length))
    (show ('<' :: '/' :: "span".toList ++ '>' :: text).head? = some '<' from rfl)
    (Readable.close ("span".toList ++ '>' :: text))
  have span := ReadableElement.withAttribute isName_span isName_style (by decide)
    (quote_notMem_escapeQuotes _) (kept_segmentCss families styled).escapeQuotes.all known run
  have shape : "<span style=\"".toList ++ Text.escapeQuotes bag.serialize.toList ++ "\">".toList ++
      runMarkup (slice characters segment.start (segment.stop.getD characters.length)) ++
        "</span>".toList ++ text =
      '<' :: ("span".toList ++ ' ' :: ("style".toList ++ '=' :: '"' ::
        Text.escapeQuotes bag.serialize.toList ++ '"' :: '>' ::
          (runMarkup (slice characters segment.start (segment.stop.getD characters.length)) ++
            ('<' :: '/' :: "span".toList ++ '>' :: text)))) := by
    simp only [List.append_assoc]
    rfl
  rw [shape]
  exact Readable.element (by decide) span later

/-! ### Texts -/

private theorem kept_body {text : TextData α} {body : List Char}
    (kept : Kept text.characters.toList)
    (families : ∀ segment ∈ text.segments, KeepsFamilies segment)
    (written : BodyMarkup text body) : Kept body := by
  cases written with
  | run => exact kept.runMarkup
  | segments _ visited =>
    intro c member
    obtain ⟨part, inside, here⟩ := List.mem_flatten.mp member
    obtain ⟨segment, known, made⟩ := exists_of_mem_right visited inside
    exact kept_segmentMarkup kept (families segment known) made c here

private theorem readable_segments {characters : List Char} {segments : List (TextSegment α)}
    {parts : List (List Char)} {text rest : Rest} (kept : Kept characters)
    (families : ∀ segment ∈ segments, KeepsFamilies segment)
    (written : List.Forall₂ (fun segment part => segmentMarkup characters segment = .ok part)
      segments parts) (later : Readable text rest) : Readable (parts.flatten ++ text) rest := by
  induction written with
  | nil => exact later
  | cons first _ ih =>
    obtain ⟨here, others⟩ := List.forall_mem_cons.mp families
    rw [List.flatten_cons, List.append_assoc]
    exact readable_segmentMarkup kept here first (ih others)

/-- The body of a text may stand in front of an end tag. -/
private theorem readable_body {text : TextData α} {body : List Char}
    (kept : Kept text.characters.toList)
    (families : ∀ segment ∈ text.segments, KeepsFamilies segment)
    (written : BodyMarkup text body) (tail : Rest) :
    Readable (body ++ '<' :: '/' :: tail) ('<' :: '/' :: tail) := by
  cases written with
  | run => exact readable_runMarkup kept rfl (Readable.close tail)
  | segments _ visited => exact readable_segments kept families visited (Readable.close tail)

/-- The markup of a text is well formed if a document keeps its characters and those of its
fonts. -/
theorem exists_readDocument {text : TextData α} {wrap : Bool} {markup : String}
    (kept : Kept text.characters.toList)
    (families : ∀ segment ∈ text.segments, KeepsFamilies segment)
    (written : textMarkup text wrap = .ok markup) :
    ∃ root, readDocument (wrapped markup) = some root := by
  obtain ⟨body, bodied, spelled⟩ := textMarkup_cases written
  have bodyKept := kept_body kept families bodied
  have opens : Kept "<div>".toList := by decide
  have ends : Kept "</div>".toList := by decide
  have whole (written : List Char) (same : written =
      if wrap || text.characters.toList.contains '\n' then
        "<div>".toList ++ body ++ "</div>".toList else body) :
      Kept written ∧ Readable (written ++ "</div>".toList) "</div>".toList := by
    subst same
    split
    · refine ⟨(opens.append bodyKept).append ends, ?_⟩
      have inner := ReadableElement.bare isName_div
        (readable_body kept families bodied ("div".toList ++ '>' :: "</div>".toList))
      have shape : "<div>".toList ++ body ++ "</div>".toList ++ "</div>".toList =
          '<' :: ("div".toList ++ '>' ::
            (body ++ ('<' :: '/' :: "div".toList ++ '>' :: "</div>".toList))) := by
        simp only [List.append_assoc]
        rfl
      rw [shape]
      exact Readable.element (by decide) inner (Readable.close _)
    · exact ⟨bodyKept, readable_body kept families bodied "div>".toList⟩
  obtain ⟨markupKept, readable⟩ := whole _ spelled
  change ∃ root, readDocument ("<div>".toList ++ markup.toList ++ "</div>".toList) = some root
  rw [readDocument_div, lineFeeds_eq_self (markupKept.append ends).notMem]
  have document : ReadableElement ("div".toList ++ '>' :: (markup.toList ++ "</div>".toList)) [] :=
    ReadableElement.bare isName_div readable
  generalize "div".toList ++ '>' :: (markup.toList ++ "</div>".toList) = text at document
  obtain ⟨root, read⟩ := document.read (2 * text.length + 4) (by omega)
  refine ⟨root, ?_⟩
  dsimp only
  rw [read]
  rfl

end Artboard.Typography
