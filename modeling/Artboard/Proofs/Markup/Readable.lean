import Artboard.Proofs.Markup.Reading

/-!
# Content that can be read

What the reader accepts in a document without a document type, piece by piece, and
that it needs no more steps than there are characters.
-/
namespace Artboard.Markup

/-- In more steps than it has characters the text is read, up to the rest. -/
structure Readable (text rest : Rest) : Prop where
  shorter : rest.length ≤ text.length
  read : ∀ fuel, text.length < fuel → ∃ found, content bareContext fuel text = some (found, rest)

/-- In more steps than it has characters the text behind an opening bracket is read as an element,
up to the rest. -/
structure ReadableElement (text rest : Rest) : Prop where
  shorter : rest.length ≤ text.length
  read : ∀ fuel, text.length < fuel → ∃ found, element bareContext fuel text = some (found, rest)

/-! ### Characters -/

namespace Readable

variable {text rest after : Rest} {c : Char}

/-- The first step is always there, so that only those after it count. -/
theorem of_succ (shorter : rest.length ≤ text.length)
    (read : ∀ fuel, text.length ≤ fuel →
      ∃ found, content bareContext (fuel + 1) text = some (found, rest)) : Readable text rest where
  shorter := shorter
  read := by
    intro fuel enough
    cases fuel with
    | zero => exact absurd enough (Nat.not_lt_zero _)
    | succ fuel => exact read fuel (Nat.le_of_lt_succ enough)

/-- Content may end in front of an end tag. -/
theorem close (text : Rest) : Readable ('<' :: '/' :: text) ('<' :: '/' :: text) := by
  apply of_succ (Nat.le_refl _)
  intro fuel _
  exact ⟨.empty, by rw [content]⟩

/-- A plain character may stand in front of content. -/
theorem plain (isPlain : isPlainChar c = true) (later : Readable text rest) :
    Readable (c :: text) rest := by
  apply of_succ (Nat.le_succ_of_le later.shorter)
  intro fuel fewer
  rw [Reads.content_plain fuel isPlain]
  -- The character is taken with the plain ones after it, and the rest is read as without it.
  have next : ∃ found, content bareContext fuel
      (text.drop (text.takeWhile isPlainChar).length) = some (found, rest) := by
    cases text with
    | nil => exact later.read fuel fewer
    | cons next text =>
      cases follows : isPlainChar next with
      | false =>
        have none : (next :: text).takeWhile isPlainChar = [] := by simp [follows]
        rw [none]
        exact later.read fuel fewer
      | true =>
        obtain ⟨found, read⟩ := later.read (fuel + 1) (Nat.lt_succ_of_lt fewer)
        rw [Reads.content_plain fuel follows] at read
        obtain ⟨⟨more, last⟩, taken, same⟩ := Option.map_eq_some_iff.mp read
        cases same
        have drops : (next :: text).drop ((next :: text).takeWhile isPlainChar).length =
            text.drop (text.takeWhile isPlainChar).length := by simp [follows]
        exact ⟨more, by rw [drops, taken]⟩
  obtain ⟨found, read⟩ := next
  exact ⟨_, by rw [read]; rfl⟩

/-- A closing bracket may stand in front of content, unless it starts the end of a section. -/
theorem bracket (apart : ∀ more, text ≠ ']' :: '>' :: more) (later : Readable text rest) :
    Readable (']' :: text) rest := by
  apply of_succ (Nat.le_succ_of_le later.shorter)
  intro fuel fewer
  obtain ⟨found, read⟩ := later.read fuel fewer
  rw [content]
  · exact ⟨_, by rw [read]; rfl⟩
  · exact apart

/-- A reference to a character may stand in front of content. -/
theorem reference {written : List Char} {reference : Reference}
    (refers : reference? (written ++ text) = some (reference, text))
    (means : reference.StandsFor c) (later : Readable text rest) :
    Readable ('&' :: written ++ text) rest := by
  have longer : text.length < ('&' :: written ++ text).length := by
    simp only [List.cons_append, List.length_cons, List.length_append]
    omega
  apply of_succ (Nat.le_of_lt (Nat.lt_of_le_of_lt later.shorter longer))
  intro fuel fewer
  have enough := Nat.lt_of_lt_of_le longer fewer
  obtain ⟨found, read⟩ := later.read fuel enough
  -- The character is found with a step more, which the reference itself leaves.
  cases fuel with
  | zero => exact absurd enough (Nat.not_lt_zero _)
  | succ fuel =>
    rw [List.cons_append, content, refers]
    simp only [means.content, Option.bind_eq_bind, Option.bind_some, read]
    exact ⟨_, rfl⟩

/-- An element may stand in front of content. -/
theorem element (name : isNameStart c = true) (first : ReadableElement (c :: text) after)
    (later : Readable after rest) : Readable ('<' :: c :: text) rest := by
  have apart : c ≠ '/' ∧ c ≠ '!' ∧ c ≠ '?' := by
    refine ⟨?_, ?_, ?_⟩ <;> rintro rfl <;> revert name <;> decide
  apply of_succ (Nat.le_succ_of_le (Nat.le_trans later.shorter first.shorter))
  intro fuel fewer
  obtain ⟨opened, read⟩ := first.read fuel fewer
  obtain ⟨more, others⟩ := later.read fuel (Nat.lt_of_le_of_lt first.shorter fewer)
  rw [content]
  · simp only [read, others, Option.bind_eq_bind, Option.bind_some]
    exact ⟨_, rfl⟩
  all_goals simp [apart]

end Readable

/-! ### Elements -/

namespace ReadableElement

variable {text rest : Rest} {name : List Char}

/-- An element without content is read. -/
theorem closed (named : IsName name) (text : Rest) :
    ReadableElement (name ++ '/' :: '>' :: text) text where
  shorter := by
    simp only [List.length_append, List.length_cons]
    omega
  read := by
    intro fuel enough
    simp only [List.length_append, List.length_cons] at enough
    obtain ⟨less, rfl⟩ : ∃ less, fuel = less + 2 := ⟨fuel - 2, by omega⟩
    rw [Markup.element]
    change ∃ found, (startTag .empty startScope (less + 1) _).bind _ = _
    rw [startTag_closed less named]
    exact ⟨_, rfl⟩

/-- An element is read whose start tag is, as long as its content ends in front of its end tag. -/
private theorem of_startTag (tag : StartTag) {inner : Rest}
    (shape : tag.ending = .opened ∧ tag.scope = startScope ∧ tag.written = ⟨[], name⟩)
    (tagged : ∀ fuel, 2 ≤ fuel → startTag .empty startScope fuel text = some (tag, inner))
    (shorter : inner.length < text.length)
    (holds : Readable inner ('<' :: '/' :: name ++ '>' :: rest)) :
    ReadableElement text rest where
  shorter := by
    have within := holds.shorter
    simp only [List.cons_append, List.length_cons, List.length_append] at within
    omega
  read := by
    intro fuel enough
    have within := holds.shorter
    simp only [List.cons_append, List.length_cons, List.length_append] at within
    obtain ⟨less, rfl⟩ : ∃ less, fuel = less + 1 := ⟨fuel - 1, by omega⟩
    obtain ⟨opened, scope, written⟩ := shape
    obtain ⟨found, read⟩ := holds.read less (by omega)
    have starts : after? "</" ('<' :: '/' :: name ++ '>' :: rest) = some (name ++ '>' :: rest) :=
      rfl
    have ends : endTag ⟨[], name⟩ (name ++ '>' :: rest) = some rest := by
      have gap : skipGaps ('>' :: rest) = '>' :: rest := rfl
      simp [endTag, PrefixedName.written, gap]
    rw [Markup.element]
    change ∃ found, (startTag .empty startScope less _).bind _ = _
    rw [tagged less (by omega)]
    -- No namespace is declared by the tag, so that the content has the context of the document.
    have same : ({ type := bareContext.type, scope := startScope } : Context) = bareContext := rfl
    simp only [Option.bind_eq_bind, Option.bind_some, opened, reduceCtorEq, if_false, scope,
      written, same, read, starts, ends]
    exact ⟨_, rfl⟩

/-- An element without attributes is read if its content is. -/
theorem bare (named : IsName name) {inner : Rest}
    (holds : Readable inner ('<' :: '/' :: name ++ '>' :: rest)) :
    ReadableElement (name ++ '>' :: inner) rest := by
  refine of_startTag ⟨⟨[], name⟩, .plain (String.ofList name), [], startScope, .opened⟩
    ⟨rfl, rfl, rfl⟩ (fun fuel enough => ?_) ?_ holds
  · obtain ⟨less, rfl⟩ : ∃ less, fuel = less + 1 := ⟨fuel - 1, by omega⟩
    exact startTag_opened less named
  · simp only [List.length_append, List.length_cons]
    omega

/-- An element with one attribute is read if the attribute has a value and its content is read. -/
theorem withAttribute {key value meant : List Char} (named : IsName name) (keyed : IsName key)
    (other : key ≠ "xmlns".toList) (apart : '"' ∉ value) (valid : value.all isDocumentChar = true)
    (known : EntityTable.empty.value value = some meant) {inner : Rest}
    (holds : Readable inner ('<' :: '/' :: name ++ '>' :: rest)) :
    ReadableElement (name ++ ' ' :: (key ++ '=' :: '"' :: value ++ '"' :: '>' :: inner)) rest := by
  refine of_startTag ⟨⟨[], name⟩, .plain (String.ofList name),
      [(.plain (String.ofList key), String.ofList meant)], startScope, .opened⟩
    ⟨rfl, rfl, rfl⟩ (fun fuel enough => ?_) ?_ holds
  · obtain ⟨less, rfl⟩ : ∃ less, fuel = less + 2 := ⟨fuel - 2, by omega⟩
    exact startTag_attribute less named keyed other apart valid known
  · simp only [List.length_append, List.length_cons]
    omega

end ReadableElement

/-! ### Values -/

/-- In more steps than it has characters the written value is expanded. -/
def ExpandableValue (text : List Char) : Prop :=
  ∀ fuel, text.length < fuel → ∃ value, expandValue .empty fuel text = some value

namespace ExpandableValue

variable {text : List Char} {c : Char}

theorem of_succ (read : ∀ fuel, text.length ≤ fuel →
    ∃ value, expandValue .empty (fuel + 1) text = some value) : ExpandableValue text := by
  intro fuel enough
  cases fuel with
  | zero => exact absurd enough (Nat.not_lt_zero _)
  | succ fuel => exact read fuel (Nat.le_of_lt_succ enough)

theorem char (ordinary : ReadsValue.isOrdinary c = true) (later : ExpandableValue text) :
    ExpandableValue (c :: text) := by
  apply of_succ
  intro fuel fewer
  rw [ReadsValue.expandValue_ordinary fuel ordinary]
  -- As in content, the ordinary characters that follow are taken along.
  have next : ∃ value, expandValue .empty fuel
      (text.drop (text.takeWhile ReadsValue.isOrdinary).length) = some value := by
    cases text with
    | nil => exact later fuel fewer
    | cons next text =>
      cases follows : ReadsValue.isOrdinary next with
      | false =>
        have none : (next :: text).takeWhile ReadsValue.isOrdinary = [] := by simp [follows]
        rw [none]
        exact later fuel fewer
      | true =>
        obtain ⟨value, read⟩ := later (fuel + 1) (Nat.lt_succ_of_lt fewer)
        rw [ReadsValue.expandValue_ordinary fuel follows] at read
        obtain ⟨more, taken, -⟩ := Option.map_eq_some_iff.mp read
        have drops : (next :: text).drop ((next :: text).takeWhile ReadsValue.isOrdinary).length =
            text.drop (text.takeWhile ReadsValue.isOrdinary).length := by simp [follows]
        exact ⟨more, by rw [drops, taken]⟩
  obtain ⟨value, read⟩ := next
  exact ⟨_, by rw [read]; rfl⟩

theorem reference {written : List Char} {reference : Reference}
    (refers : reference? (written ++ text) = some (reference, text))
    (means : reference.StandsFor c) (later : ExpandableValue text) :
    ExpandableValue ('&' :: written ++ text) := by
  apply of_succ
  intro fuel fewer
  simp only [List.cons_append, List.length_cons, List.length_append] at fewer
  obtain ⟨value, read⟩ := later fuel (by omega)
  rw [List.cons_append, expandValue, refers]
  cases means with
  | number =>
    simp only [read]
    exact ⟨_, rfl⟩
  | name known =>
    simp only [known, read]
    exact ⟨_, rfl⟩

end ExpandableValue

/-- Every text that is escaped has a value. -/
theorem exists_value_escapeQuotes (text : List Char) :
    ∃ value, EntityTable.empty.value (Text.escapeQuotes text) = some value := by
  have expandable : ExpandableValue (Text.escapeQuotes text) := by
    induction text with
    | nil =>
      apply ExpandableValue.of_succ
      intro fuel _
      exact ⟨[], by rw [Text.escapeQuotes, List.flatMap_nil, expandValue]⟩
    | cons c text ih =>
      change ExpandableValue (Text.escapeQuotesChar c ++ Text.escapeQuotes text)
      rcases Text.writesReferences_quotes c with special | ⟨same, plain⟩
      · obtain ⟨written, reference, same, refers, means⟩ := reference?_of_mem special
        rw [same]
        exact ih.reference (refers _) means
      · rw [same]
        exact ih.char (ReadsValue.isOrdinary_of_notMem plain)
  exact expandable _ (Nat.lt_succ_of_le (Nat.le_refl _))

end Artboard.Markup
