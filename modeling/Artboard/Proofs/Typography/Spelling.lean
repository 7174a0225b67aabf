import Artboard.Proofs.Typography.WellFormed

/-!
# What a shown text spells

Flattened in document order, with a line feed for each line break, the content of a
text spells its characters again. Segments that tile the characters are shown by
spans that do.
-/
namespace Artboard

open Markup

namespace Markup

/-! ### Elements in document order -/

namespace Element

mutual

/-- The elements of a tree, each before those inside it. -/
def preorder : Element → List Element
  | mk head children => mk head children :: preorders children

def preorders : List Element → List Element
  | [] => []
  | element :: rest => preorder element ++ preorders rest

end

theorem preorders_append (elements others : List Element) :
    preorders (elements ++ others) = preorders elements ++ preorders others := by
  induction elements with
  | nil => rfl
  | cons element rest ih => simp [preorders, ih]

mutual

/-- The text inside an element, flattened in document order, where a line break is a line feed. -/
def spelled : Element → List Char
  | mk head children =>
    (if head.name = .plain "br" then ['\n'] else []) ++ head.text ++ spelledAll children

def spelledAll : List Element → List Char
  | [] => []
  | element :: rest => spelled element ++ element.head.tail ++ spelledAll rest

end

end Element

namespace Fragment

/-- The text of a fragment, flattened in document order. -/
def spelled (content : Fragment) : List Char :=
  content.text ++ Element.spelledAll content.elements

/-- The spans of a fragment in document order. -/
def spans (content : Fragment) : List Element :=
  (Element.preorders content.elements).filter (·.head.name == .plain "span")

/-- Only the spans of a fragment have attributes. -/
def PlainButSpans (content : Fragment) : Prop :=
  ∀ element ∈ Element.preorders content.elements,
    element.head.name ≠ .plain "span" → element.head.attributes = []

@[simp] theorem spelled_empty : Fragment.empty.spelled = [] := rfl

@[simp] theorem spelled_addText (text : List Char) (content : Fragment) :
    (content.addText text).spelled = text ++ content.spelled :=
  List.append_assoc _ _ _

@[simp] theorem spelled_addElement (element : Element) (content : Fragment) :
    (content.addElement element).spelled = element.spelled ++ content.spelled := by
  cases element
  exact List.append_assoc _ _ _

end Fragment

/-- An element that is no line break spells its content. -/
theorem Element.spelled_mk {head : Head} (children : List Element)
    (other : head.name ≠ .plain "br") :
    (Element.mk head children).spelled = (Fragment.mk head.text children).spelled := by
  rw [Element.spelled, if_neg other]
  rfl

end Markup

namespace Typography

/-! ### Runs -/

/-- A run is spelled character by character. -/
theorem spelled_runContent {run : List Char} (fed : '\r' ∉ run) (after : Fragment) :
    (runContent run after).spelled = run ++ after.spelled := by
  induction run with
  | nil => rfl
  | cons c run ih =>
    simp only [List.mem_cons, not_or] at fed
    have later := ih fed.2
    rw [runContent] at later ⊢
    rw [List.foldr_cons]
    by_cases breaks : c = '\n'
    · subst breaks
      rw [if_pos rfl, Fragment.spelled_addElement, later]
      rfl
    · rw [if_neg breaks, if_neg (Ne.symm fed.1), Fragment.spelled_addText, later]
      rfl

/-- The elements of a run are line breaks. -/
private theorem breaks_of_mem_runContent (run : List Char) :
    ∀ element ∈ Element.preorders (runContent run .empty).elements,
      element.head.name = .plain "br" ∧ element.head.attributes = [] := by
  induction run with
  | nil => exact fun element member => absurd member List.not_mem_nil
  | cons c run ih =>
    rw [runContent] at ih ⊢
    rw [List.foldr_cons]
    split
    · exact List.forall_mem_cons.mpr ⟨⟨rfl, rfl⟩, ih⟩
    · exact ih

private theorem spans_runContent (run : List Char) : (runContent run .empty).spans = [] := by
  refine List.filter_eq_nil_iff.mpr fun element member => ?_
  rw [(breaks_of_mem_runContent run element member).1]
  decide

private theorem plain_runContent (run : List Char) : (runContent run .empty).PlainButSpans :=
  fun element member _ => (breaks_of_mem_runContent run element member).2

/-! ### Segments -/

variable {α : Type} [Scalar α]

/-- The run of a segment. -/
def segmentRun (characters : List Char) (segment : TextSegment α) : List Char :=
  slice characters segment.start (segment.stop.getD characters.length)

/-- From a position on, each segment starts where the one before it stops, which is not before its
own start, and the last one stops at the end. A negative position counts from the end. -/
def Tiles (length : Nat) : Nat → List (TextSegment α) → Prop
  | reached, [] => reached = length
  | reached, segment :: rest =>
    position length segment.start = reached ∧
      reached ≤ position length (segment.stop.getD length) ∧
      Tiles length (position length (segment.stop.getD length)) rest

omit [Scalar α] in
instance decidableTiles (length : Nat) :
    (reached : Nat) → (segments : List (TextSegment α)) → Decidable (Tiles length reached segments)
  | reached, [] => inferInstanceAs (Decidable (reached = length))
  | _, segment :: rest =>
    have : Decidable (Tiles length (position length (segment.stop.getD length)) rest) :=
      decidableTiles length _ rest
    inferInstanceAs (Decidable (_ ∧ _ ∧ _))

omit [Scalar α] in
/-- The runs of segments that tile a text are the text. -/
theorem flatten_segmentRun {characters : List Char} {reached : Nat}
    {segments : List (TextSegment α)} (tiles : Tiles characters.length reached segments) :
    (segments.map (segmentRun characters)).flatten = characters.drop reached := by
  induction segments generalizing reached with
  | nil =>
    obtain rfl : reached = characters.length := tiles
    simp
  | cons segment rest ih =>
    obtain ⟨starts, within, later⟩ := tiles
    -- The first run goes from where the text is reached to where the other segments start.
    rw [List.map_cons, List.flatten_cons, ih later, segmentRun, slice, starts, List.drop_take]
    generalize position characters.length (segment.stop.getD characters.length) = stop at within
    have taken := List.take_append_drop (stop - reached) (characters.drop reached)
    rwa [List.drop_drop, Nat.add_sub_cancel' within] at taken

/-- The span of a segment spells its run. -/
theorem IsSpan.spelled {characters : List Char} {segment : TextSegment α} {span : Element}
    (fed : '\r' ∉ characters) (isSpan : IsSpan characters segment span) :
    span.spelled = segmentRun characters segment := by
  have run : '\r' ∉ segmentRun characters segment := fun member =>
    fed (List.mem_of_mem_take (List.mem_of_mem_drop member))
  cases isSpan with
  | mk styled same =>
    rw [Element.spelled_mk _ (by simp [Name.plain])]
    exact (spelled_runContent run .empty).trans (List.append_nil _)

/-- The spans of segments spell their runs one after the other. -/
private theorem spelledAll_spans {characters : List Char} {segments : List (TextSegment α)}
    {spans : List Element} (fed : '\r' ∉ characters)
    (each : List.Forall₂ (IsSpan characters) segments spans) :
    Element.spelledAll spans = (segments.map (segmentRun characters)).flatten := by
  induction each with
  | nil => rfl
  | cons first _ ih =>
    have tail : ∀ {segment : TextSegment α} {span}, IsSpan characters segment span →
        span.head.tail = [] := by
      rintro segment span ⟨⟩
      rfl
    rw [Element.spelledAll, first.spelled fed, tail first, List.append_nil, ih]
    rfl

/-- No other span is among those of the segments. -/
private theorem spans_of_isSpan {characters : List Char} {segments : List (TextSegment α)}
    {spans : List Element} (each : List.Forall₂ (IsSpan characters) segments spans) :
    (Fragment.mk [] spans).spans = spans := by
  induction each with
  | nil => rfl
  | @cons segment _ _ others first _ ih =>
    obtain ⟨styled, rfl⟩ := first
    -- The line breaks of the run are inside its span, and none of them is a span.
    have inner := spans_runContent (segmentRun characters segment)
    rw [Fragment.spans] at ih inner ⊢
    rw [Element.preorders, Element.preorder, List.filter_append,
      List.filter_cons_of_pos (by simp [Element.head])]
    rw [ih]
    exact congrArg (_ :: · ++ others) inner

private theorem plain_spans {characters : List Char} {segments : List (TextSegment α)}
    {spans : List Element} (each : List.Forall₂ (IsSpan characters) segments spans) :
    (Fragment.mk [] spans).PlainButSpans := by
  induction each with
  | nil => exact fun element member => absurd member List.not_mem_nil
  | cons first _ ih =>
    obtain ⟨styled, rfl⟩ := first
    rw [Fragment.PlainButSpans, Element.preorders, Element.preorder, List.cons_append,
      List.forall_mem_cons, List.forall_mem_append]
    exact ⟨fun other => absurd rfl other, plain_runContent _, ih⟩

/-! ### Texts -/

theorem IsBody.spelled {text : TextData α} {body : Fragment}
    (fed : '\r' ∉ text.characters.toList)
    (tiled : text.segments = [] ∨ Tiles text.characters.toList.length 0 text.segments)
    (isBody : IsBody text body) : body.spelled = text.characters.toList := by
  cases isBody with
  | run none => exact (spelled_runContent fed .empty).trans (List.append_nil _)
  | spans inhabited each =>
    have tiles := tiled.resolve_left inhabited
    exact (spelledAll_spans fed each).trans (flatten_segmentRun tiles)

theorem IsBody.forall₂_spans {text : TextData α} {body : Fragment} (isBody : IsBody text body) :
    List.Forall₂ (IsSpan text.characters.toList) text.segments body.spans := by
  cases isBody with
  | run none =>
    rw [none, spans_runContent]
    exact .nil
  | spans _ each => rwa [spans_of_isSpan each]

private theorem IsBody.plain {text : TextData α} {body : Fragment} (isBody : IsBody text body) :
    body.PlainButSpans := by
  cases isBody with
  | run => exact plain_runContent _
  | spans _ each => exact plain_spans each

namespace IsTextContent

variable {text : TextData α} {wrap : Bool} {content : Fragment}

/-- A shown text spells its characters. -/
theorem spelled (fed : '\r' ∉ text.characters.toList)
    (tiled : text.segments = [] ∨ Tiles text.characters.toList.length 0 text.segments)
    (isText : IsTextContent text wrap content) : content.spelled = text.characters.toList := by
  cases isText with
  | bare _ isBody => exact isBody.spelled fed tiled
  | @block body _ isBody =>
    have other : (⟨.plain "div", [], body.text, []⟩ : Head).name ≠ .plain "br" := by
      simp [Name.plain]
    have block := Element.spelled_mk body.elements other
    rw [Fragment.spelled, Element.spelledAll, block, ← isBody.spelled fed tiled]
    simp [Element.head, Element.spelledAll]

/-- A shown text has a span for each segment, in order. -/
theorem forall₂_spans (isText : IsTextContent text wrap content) :
    List.Forall₂ (IsSpan text.characters.toList) text.segments content.spans := by
  cases isText with
  | bare _ isBody => exact isBody.forall₂_spans
  | @block body _ isBody =>
    have inside : (Fragment.mk [] [.mk ⟨.plain "div", [], body.text, []⟩ body.elements]).spans =
        body.spans := by
      rw [Fragment.spans, Element.preorders, Element.preorder, Element.preorders, List.append_nil,
        List.filter_cons_of_neg (by simp [Element.head, Name.plain])]
      rfl
    rw [inside]
    exact isBody.forall₂_spans

/-- Nothing in a shown text has attributes but its spans. -/
theorem plain (isText : IsTextContent text wrap content) : content.PlainButSpans := by
  cases isText with
  | bare _ isBody => exact isBody.plain
  | block _ isBody =>
    rw [Fragment.PlainButSpans, Element.preorders, Element.preorder, Element.preorders,
      List.append_nil, List.forall_mem_cons]
    exact ⟨fun _ => rfl, isBody.plain⟩

/-- A wrapped text is one block, with nothing around it. -/
theorem single (isText : IsTextContent text true content) :
    content.text = [] ∧ ∃ block, content.elements = [block] ∧ block.head.tail = [] := by
  cases isText with
  | bare bare => simp at bare
  | block => exact ⟨rfl, _, rfl, rfl⟩

end IsTextContent

end Typography

end Artboard
