import Artboard.Proofs.Markup.Reading
import Artboard.Proofs.Scene.Compilation

/-!
# Reading the markup of a text

The markup of a text is read as the text again: a run character by character, with
an element for each line feed, and a segment as a span with its style. This holds
wherever the markup is well formed at all.
-/
namespace Artboard.Typography

open Markup

/-! ### Names -/

theorem isName_br : IsName "br".toList :=
  ⟨'b', ['r'], rfl, by decide, List.all_eq_true.mp (by decide)⟩

theorem isName_span : IsName "span".toList :=
  ⟨'s', "pan".toList, rfl, by decide, List.all_eq_true.mp (by decide)⟩

theorem isName_style : IsName "style".toList :=
  ⟨'s', "tyle".toList, rfl, by decide, List.all_eq_true.mp (by decide)⟩

theorem isName_div : IsName "div".toList :=
  ⟨'d', "iv".toList, rfl, by decide, List.all_eq_true.mp (by decide)⟩

/-! ### Runs -/

/-- A line break in a text. -/
def breakElement : Element := .plain "br" [] []

/-- What a run of characters is read as, in front of other content: a line feed is an element, and
a carriage return is read as a line feed. -/
def runContent (run : List Char) (after : Fragment) : Fragment :=
  run.foldr (fun c content =>
    if c = '\n' then content.addElement breakElement
    else content.addText [if c = '\r' then '\n' else c]) after

theorem runMarkup_cons (c : Char) (run : List Char) :
    runMarkup (c :: run) =
      (if c = '\n' then "<br/>".toList else Text.escapeContentChar c) ++ runMarkup run := rfl

/-- The markup of a run starts with a mark, or with a character that is written as it is. -/
theorem runMarkup_cons_cases {c first : Char} {run text more : List Char}
    (same : runMarkup (c :: run) ++ text = first :: more) :
    (first = '<' ∨ first = '&') ∨
      first = c ∧ c ≠ '\n' ∧ c ≠ '>' ∧ runMarkup run ++ text = more := by
  rw [runMarkup_cons, List.append_assoc, Text.escapeContentChar.eq_def] at same
  split at same
  · cases same
    exact .inl (.inl rfl)
  next unbroken =>
    split at same
    · cases same
      exact .inl (.inr rfl)
    · cases same
      exact .inl (.inr rfl)
    · cases same
      exact .inl (.inr rfl)
    next closes =>
      obtain ⟨rfl, rest⟩ := List.cons.inj same
      exact .inr ⟨rfl, unbroken, closes, rest⟩

/-- The markup of a run, in which a carriage return is read as a line feed. -/
private def fedRun (run : List Char) : List Char :=
  run.flatMap fun c =>
    if c = '\n' then "<br/>".toList
    else if c = '\r' then ['\n'] else Text.escapeContentChar c

private theorem reads_escaped {c : Char} {text rest : Rest} {found : Fragment}
    (reads : Reads (Text.escapeContentChar c ++ text) found rest) :
    ∃ more, Reads text more rest ∧ found = more.addText [c] := by
  rcases Text.writesReferences_content c with special | ⟨same, plain⟩
  · obtain ⟨written, reference, same, refers, means⟩ :=
      reference?_of_mem (Text.contentReferences_subset special)
    rw [same] at reads
    exact reads.reference (refers _) means
  · rw [same] at reads
    have opens : c ≠ '<' := by
      rintro rfl
      exact plain (by decide)
    have refers : c ≠ '&' := by
      rintro rfl
      exact plain (by decide)
    exact reads.char opens refers

/-- A run is read character by character. -/
private theorem reads_fedRun {run : List Char} {text rest : Rest} {found : Fragment}
    (reads : Reads (fedRun run ++ text) found rest) :
    ∃ more, Reads text more rest ∧ found = runContent run more := by
  induction run generalizing found with
  | nil => exact ⟨found, reads, rfl⟩
  | cons c run ih =>
    rw [fedRun, List.flatMap_cons, List.append_assoc] at reads
    split at reads
    next breaks =>
      obtain ⟨fuel, first, after, between, opened, tail, rfl⟩ := Reads.element (by decide) reads
      obtain ⟨rfl, rfl⟩ := element_closed isName_br opened
      obtain ⟨more, last, rfl⟩ := ih tail
      exact ⟨more, last, by simp [breaks, runContent, breakElement]⟩
    next other =>
      split at reads
      next returns =>
        obtain ⟨between, tail, rfl⟩ := Reads.char (by decide) (by decide) reads
        obtain ⟨more, last, rfl⟩ := ih tail
        exact ⟨more, last, by simp [returns, runContent]⟩
      next plain =>
        obtain ⟨between, tail, rfl⟩ := reads_escaped reads
        obtain ⟨more, last, rfl⟩ := ih tail
        exact ⟨more, last, by simp [other, plain, runContent]⟩

/-- The line breaks of a run are read character by character as well. -/
private theorem lineFeeds_runMarkup {run : List Char} {text : List Char}
    (apart : text.head? ≠ some '\n') :
    lineFeeds (runMarkup run ++ text) = fedRun run ++ lineFeeds text := by
  induction run with
  | nil => rfl
  | cons c run ih =>
    -- No line feed is left in the markup of a run, so that none follows a carriage return.
    have follows : (runMarkup run ++ text).head? ≠ some '\n' := by
      intro same
      cases run with
      | nil => exact apart same
      | cons next run =>
        obtain ⟨more, same⟩ := List.head?_eq_some_iff.mp same
        rcases runMarkup_cons_cases same with marked | ⟨same, unbroken, -⟩
        · revert marked
          decide
        · exact unbroken same.symm
    change lineFeeds ((if c = '\n' then "<br/>".toList else Text.escapeContentChar c) ++
      runMarkup run ++ text) = ((if c = '\n' then "<br/>".toList
        else if c = '\r' then ['\n'] else Text.escapeContentChar c) ++ fedRun run) ++ lineFeeds text
    rw [List.append_assoc, lineFeeds_append follows, ih, List.append_assoc]
    congr 1
    split
    · rfl
    · rw [Text.escapeContentChar.eq_def]
      split
      · rfl
      · rfl
      · rfl
      · rw [lineFeeds_cons]
        split <;> simp [lineFeeds]

/-! ### Texts -/

variable {α : Type} [Scalar α]

/-- The element is the span of a segment: its only attribute is the style of the segment, with
spaces for other gaps, and it holds the run of the segment. -/
inductive IsSpan (characters : List Char) (segment : TextSegment α) : Element → Prop
  | mk {bag style} :
      segmentCss segment = .ok bag →
      style = String.ofList (spaced (lineFeeds bag.serialize.toList)) →
      IsSpan characters segment (.mk ⟨.plain "span", [(.plain "style", style)],
        (runContent (slice characters segment.start (segment.stop.getD characters.length))
          .empty).text, []⟩
        (runContent (slice characters segment.start (segment.stop.getD characters.length))
          .empty).elements)

private theorem reads_close {text rest : Rest} {found : Fragment}
    (reads : Reads (lineFeeds ('<' :: '/' :: text)) found rest) :
    found = .empty ∧ rest = '<' :: '/' :: lineFeeds text := by
  have fed : lineFeeds ('<' :: '/' :: text) = '<' :: '/' :: lineFeeds text :=
    lineFeeds_of_notMem (show '\r' ∉ ['<', '/'] by decide) text
  rw [fed] at reads
  exact reads.close

/-- The markup of a segment has no line break but those of its style and its run. -/
private theorem lineFeeds_segment (style run tail : List Char) :
    lineFeeds ("<span style=\"".toList ++ Text.escapeQuotes style ++ "\">".toList ++
        runMarkup run ++ "</span>".toList ++ tail) =
      '<' :: ("span".toList ++ ' ' :: ("style".toList ++ '=' :: '"' ::
        Text.escapeQuotes (lineFeeds style) ++ '"' :: '>' ::
          (fedRun run ++ ("</span>".toList ++ lineFeeds tail)))) := by
  have opened : lineFeeds ("<span style=\"".toList ++ (Text.escapeQuotes style ++
      ("\">".toList ++ (runMarkup run ++ ("</span>".toList ++ tail))))) =
      "<span style=\"".toList ++ lineFeeds (Text.escapeQuotes style ++
        ("\">".toList ++ (runMarkup run ++ ("</span>".toList ++ tail)))) :=
    lineFeeds_of_notMem (by decide) _
  have closed : lineFeeds ("\">".toList ++ (runMarkup run ++ ("</span>".toList ++ tail))) =
      "\">".toList ++ lineFeeds (runMarkup run ++ ("</span>".toList ++ tail)) :=
    lineFeeds_of_notMem (by decide) _
  have ended : lineFeeds ("</span>".toList ++ tail) = "</span>".toList ++ lineFeeds tail :=
    lineFeeds_of_notMem (by decide) _
  simp only [List.append_assoc]
  rw [opened, lineFeeds_append (by simp), lineFeeds_escapeQuotes, closed,
    lineFeeds_runMarkup (by simp), ended]
  rfl

/-- The markup of a segment is read as its span. -/
private theorem reads_segment {characters part tail : List Char} {segment : TextSegment α}
    {found : Fragment} {rest : Rest}
    (written : segmentMarkup characters segment = .ok part)
    (reads : Reads (lineFeeds (part ++ tail)) found rest) :
    ∃ span more, IsSpan characters segment span ∧ Reads (lineFeeds tail) more rest ∧
      found = more.addElement span := by
  obtain ⟨bag, styled, written⟩ := Except.bind_eq_ok_iff.mp written
  cases written
  rw [lineFeeds_segment] at reads
  obtain ⟨fuel, span, after, more, opened, later, rfl⟩ := Reads.element (by decide) reads
  obtain ⟨meant, inner, ended, known, held, closed, rfl⟩ :=
    element_attribute isName_span isName_style (by decide) (quote_notMem_escapeQuotes _) opened
  obtain rfl := value_escapeQuotes known
  obtain ⟨last, inside, rfl⟩ := reads_fedRun held
  obtain ⟨rfl, rfl⟩ := Reads.close inside
  obtain rfl := closed.rest_eq
  exact ⟨_, more, .mk styled rfl, later, rfl⟩

/-- What is read for the body of a text: its only run, or a span for each segment. -/
inductive IsBody (text : TextData α) : Fragment → Prop
  | run : text.segments = [] → IsBody text (runContent text.characters.toList .empty)
  | spans {spans} : text.segments ≠ [] →
      List.Forall₂ (IsSpan text.characters.toList) text.segments spans → IsBody text ⟨[], spans⟩

private theorem reads_segments {characters tail : List Char} {segments : List (TextSegment α)}
    {parts : List (List Char)} {found : Fragment} {rest : Rest}
    (written : List.Forall₂ (fun segment part => segmentMarkup characters segment = .ok part)
      segments parts)
    (reads : Reads (lineFeeds (parts.flatten ++ '<' :: '/' :: tail)) found rest) :
    ∃ spans, List.Forall₂ (IsSpan characters) segments spans ∧ found = ⟨[], spans⟩ ∧
      rest = '<' :: '/' :: lineFeeds tail := by
  induction written generalizing found with
  | nil =>
    obtain ⟨rfl, rfl⟩ := reads_close reads
    exact ⟨[], .nil, rfl, rfl⟩
  | cons first _ ih =>
    rw [List.flatten_cons, List.append_assoc] at reads
    obtain ⟨span, more, isSpan, later, rfl⟩ := reads_segment first reads
    obtain ⟨spans, each, rfl, rfl⟩ := ih later
    refine ⟨span :: spans, .cons isSpan each, ?_, rfl⟩
    -- No text follows a span.
    cases isSpan
    rfl

/-- The fragment is what a text is shown as, in one block if it has line breaks or is wrapped. -/
inductive IsTextContent (text : TextData α) (wrap : Bool) : Fragment → Prop
  | bare {body} : (wrap || text.characters.toList.contains '\n') = false → IsBody text body →
      IsTextContent text wrap body
  | block {body} : (wrap || text.characters.toList.contains '\n') = true → IsBody text body →
      IsTextContent text wrap
        ⟨[], [.mk ⟨.plain "div", [], body.text, []⟩ body.elements]⟩

/-- The body of the markup of a text: its only run, or what is written for each segment. -/
inductive BodyMarkup (text : TextData α) : List Char → Prop
  | run : text.segments = [] → BodyMarkup text (runMarkup text.characters.toList)
  | segments {parts} : text.segments ≠ [] →
      List.Forall₂ (fun segment part => segmentMarkup text.characters.toList segment = .ok part)
        text.segments parts → BodyMarkup text parts.flatten

/-- The markup of a text is a body, which may be in a block. -/
theorem textMarkup_cases {text : TextData α} {wrap : Bool} {markup : String}
    (written : textMarkup text wrap = .ok markup) :
    ∃ body, BodyMarkup text body ∧
      markup.toList = if wrap || text.characters.toList.contains '\n' then
        "<div>".toList ++ body ++ "</div>".toList else body := by
  unfold textMarkup at written
  dsimp only at written
  split at written
  next none =>
    cases written
    exact ⟨_, .run (List.isEmpty_iff.mp none), String.toList_ofList⟩
  next filled =>
    obtain ⟨parts, visited, written⟩ := Except.bind_eq_ok_iff.mp written
    cases written
    have inhabited : text.segments ≠ [] := by simpa using filled
    exact ⟨_, .segments inhabited (Except.forall₂_of_mapM visited), String.toList_ofList⟩

/-- A body in front of an end tag is read up to the tag. -/
private theorem reads_body {text : TextData α} {body tail : List Char} {found : Fragment}
    {rest : Rest} (written : BodyMarkup text body)
    (reads : Reads (lineFeeds (body ++ '<' :: '/' :: tail)) found rest) :
    IsBody text found ∧ rest = '<' :: '/' :: lineFeeds tail := by
  cases written with
  | run none =>
    have marked : ('<' :: '/' :: tail).head? ≠ some '\n' := by simp
    rw [lineFeeds_runMarkup marked] at reads
    obtain ⟨more, later, rfl⟩ := reads_fedRun reads
    obtain ⟨rfl, rfl⟩ := reads_close later
    exact ⟨.run none, rfl⟩
  | segments inhabited visited =>
    obtain ⟨spans, each, rfl, rfl⟩ := reads_segments visited reads
    exact ⟨.spans inhabited each, rfl⟩

/-- A document that is one `div` has the content of the `div`. -/
private theorem reads_of_readDocument {inner : List Char} {root : Element}
    (read : readDocument ("<div>".toList ++ inner ++ "</div>".toList) = some root) :
    ∃ found rest, Reads (lineFeeds (inner ++ "</div>".toList)) found rest ∧
      root = .mk ⟨.plain "div", [], found.text, []⟩ found.elements := by
  rw [readDocument_div] at read
  obtain ⟨⟨found, rest⟩, divided, read⟩ := Option.bind_eq_some_iff.mp read
  obtain ⟨last, -, read⟩ := Option.bind_eq_some_iff.mp read
  split at read
  · cases read
    obtain ⟨inner, ended, held, -, rfl⟩ := element_bare isName_div divided
    exact ⟨inner, ended, held, rfl⟩
  · cases read

/-- Markup of a text that is well formed is read as the text. -/
theorem isTextContent_of_readDocument {text : TextData α} {wrap : Bool} {markup : String}
    {root : Element} (written : textMarkup text wrap = .ok markup)
    (read : readDocument (wrapped markup) = some root) :
    IsTextContent text wrap ⟨root.head.text, root.children⟩ := by
  obtain ⟨body, bodied, spelled⟩ := textMarkup_cases written
  have whole : wrapped markup = "<div>".toList ++ (if wrap || text.characters.toList.contains '\n'
      then "<div>".toList ++ body ++ "</div>".toList else body) ++ "</div>".toList :=
    congrArg (fun inner => "<div>".toList ++ inner ++ "</div>".toList) spelled
  rw [whole] at read
  obtain ⟨found, rest, reads, rfl⟩ := reads_of_readDocument read
  split at reads
  next block =>
    have opened : lineFeeds ("<div>".toList ++ body ++ "</div>".toList ++ "</div>".toList) =
        '<' :: ("div".toList ++ '>' :: lineFeeds (body ++ '<' :: '/' :: "div></div>".toList)) := by
      simp only [List.append_assoc]
      exact lineFeeds_of_notMem (by decide) _
    rw [opened] at reads
    obtain ⟨fuel, inner, after, more, divided, later, rfl⟩ := Reads.element (by decide) reads
    obtain ⟨found, ended, held, closed, rfl⟩ := element_bare isName_div divided
    obtain ⟨isBody, rfl⟩ := reads_body bodied held
    have feed : lineFeeds "div></div>".toList =
        "div".toList ++ '>' :: '<' :: '/' :: "div>".toList := lineFeeds_eq_self (by decide)
    rw [feed] at closed
    obtain rfl := closed.rest_eq
    obtain ⟨rfl, rfl⟩ := later.close
    exact .block block isBody
  next bare =>
    have ended : body ++ "</div>".toList = body ++ '<' :: '/' :: "div>".toList := rfl
    rw [ended] at reads
    exact .bare (Bool.eq_false_iff.mpr bare) (reads_body bodied reads).1

end Artboard.Typography
