import Artboard.Markup.Fragment
import Artboard.Proofs.Text.Entity

/-!
# Reading content

What the reader finds in a document without a document type, piece by piece:
characters, the references that stand for one, and the few elements that the
markup of a text is made of.
-/
namespace Artboard.Markup

/-! ### References -/

/-- A reference that stands for the character in every document. -/
inductive Reference.StandsFor (c : Char) : Reference → Prop
  | number : Reference.StandsFor c (.number c)
  | name {name} : predefinedChars.lookup name = some c → Reference.StandsFor c (.name name)

/-- A document without a document type, with no namespace declared. -/
def bareContext : Context := ⟨.empty, startScope⟩

theorem Reference.StandsFor.content {c : Char} {reference : Reference}
    (means : reference.StandsFor c) (fuel : Nat) :
    referenceContent bareContext (fuel + 1) reference = some ⟨[c], []⟩ := by
  cases means with
  | number => rw [referenceContent]
  | name known => simp only [referenceContent, known]

/-! ### Characters -/

/-- With some number of steps the text is read as the fragment, up to the rest. -/
def Reads (text : Rest) (found : Fragment) (rest : Rest) : Prop :=
  ∃ fuel, content bareContext fuel text = some (found, rest)

namespace Reads

variable {text rest : Rest} {found : Fragment} {c : Char}

/-- Plain characters are taken all at once. -/
theorem content_plain (fuel : Nat) (plain : isPlainChar c = true) :
    content bareContext (fuel + 1) (c :: text) =
      (content bareContext fuel (text.drop (text.takeWhile isPlainChar).length)).map
        fun found => (found.1.addText (c :: text.takeWhile isPlainChar), found.2) := by
  have apart : c ≠ '<' ∧ c ≠ '&' ∧ c ≠ ']' := by
    refine ⟨?_, ?_, ?_⟩ <;> rintro rfl <;> cases plain
  rw [content]
  · simp only [List.takeWhile_cons, plain, if_true, List.isEmpty_cons, Bool.false_eq_true, if_false,
      List.length_cons, List.drop_succ_cons]
    cases content bareContext fuel (text.drop (text.takeWhile isPlainChar).length) <;> rfl
  all_goals simp [apart]

private theorem addText_addText (content : Fragment) (first second : List Char) :
    (content.addText second).addText first = content.addText (first ++ second) := by
  simp [Fragment.addText]

/-- A character is text, apart from those that start markup. -/
theorem char (opens : c ≠ '<') (refers : c ≠ '&') (reads : Reads (c :: text) found rest) :
    ∃ more, Reads text more rest ∧ found = more.addText [c] := by
  obtain ⟨fuel, read⟩ := reads
  cases fuel with
  | zero => simp [content] at read
  | succ fuel =>
    by_cases closing : c = ']'
    · subst closing
      unfold content at read
      split at read
      case h_9 same =>
        cases same
        obtain ⟨⟨more, after⟩, later, same⟩ := Option.bind_eq_some_iff.mp read
        cases same
        exact ⟨more, ⟨fuel, later⟩, rfl⟩
      all_goals simp_all
    cases plain : isPlainChar c with
    | false =>
      -- A character that no document may contain stops the reader.
      rw [content] at read
      · simp [plain] at read
      all_goals simp [opens, refers, closing]
    | true =>
      rw [content_plain fuel plain] at read
      obtain ⟨⟨more, after⟩, later, same⟩ := Option.map_eq_some_iff.mp read
      cases same
      cases text with
      | nil => exact ⟨more, ⟨fuel, later⟩, rfl⟩
      | cons next text =>
        cases follows : isPlainChar next with
        | false =>
          simp only [List.takeWhile_cons, follows, Bool.false_eq_true, if_false, List.length_nil,
            List.drop_zero] at later ⊢
          exact ⟨more, ⟨fuel, later⟩, rfl⟩
        | true =>
          simp only [List.takeWhile_cons, follows, if_true, List.length_cons,
            List.drop_succ_cons] at later ⊢
          refine ⟨more.addText (next :: text.takeWhile isPlainChar), ⟨fuel + 1, ?_⟩, ?_⟩
          · rw [content_plain fuel follows, later]
            rfl
          · rw [addText_addText]
            rfl

/-- Content ends in front of an end tag. -/
theorem close (reads : Reads ('<' :: '/' :: text) found rest) :
    found = .empty ∧ rest = '<' :: '/' :: text := by
  obtain ⟨fuel, read⟩ := reads
  cases fuel with
  | zero => simp [content] at read
  | succ fuel =>
    rw [content] at read
    cases read
    exact ⟨rfl, rfl⟩

/-- An ampersand with a reference behind it is the character that the reference stands for. -/
theorem reference {written : List Char} {reference : Reference}
    (refers : reference? (written ++ text) = some (reference, text))
    (means : reference.StandsFor c) (reads : Reads ('&' :: written ++ text) found rest) :
    ∃ more, Reads text more rest ∧ found = more.addText [c] := by
  obtain ⟨fuel, read⟩ := reads
  cases fuel with
  | zero => simp [content] at read
  | succ fuel =>
    rw [List.cons_append, content, refers] at read
    cases fuel with
    | zero => simp [referenceContent] at read
    | succ fuel =>
      simp only [means.content, Option.bind_eq_bind, Option.bind_some] at read
      obtain ⟨⟨more, after⟩, later, same⟩ := Option.bind_eq_some_iff.mp read
      cases same
      exact ⟨more, ⟨fuel + 1, later⟩, rfl⟩

/-- An opening bracket with a name behind it starts an element. -/
theorem element (name : isNameStart c = true) (reads : Reads ('<' :: c :: text) found rest) :
    ∃ fuel first after more, Markup.element bareContext fuel (c :: text) = some (first, after) ∧
      Reads after more rest ∧ found = more.addElement first := by
  have apart : c ≠ '/' ∧ c ≠ '!' ∧ c ≠ '?' := by
    refine ⟨?_, ?_, ?_⟩ <;> rintro rfl <;> revert name <;> decide
  obtain ⟨fuel, read⟩ := reads
  cases fuel with
  | zero => simp [content] at read
  | succ fuel =>
    rw [content] at read
    · obtain ⟨⟨first, after⟩, opened, read⟩ := Option.bind_eq_some_iff.mp read
      obtain ⟨⟨more, ended⟩, later, same⟩ := Option.bind_eq_some_iff.mp read
      cases same
      exact ⟨fuel, first, after, more, opened, ⟨fuel, later⟩, rfl⟩
    all_goals simp [apart]

end Reads

/-! ### Tags -/

section Tags

variable {text rest : Rest} {stop : Char}

/-- The text is the name of an element or an attribute. -/
def IsName (name : List Char) : Prop :=
  ∃ first more, name = first :: more ∧ isNameStart first = true ∧
    ∀ c ∈ more, isNameChar c = true

theorem simpleName_append {name : List Char} (named : IsName name)
    (stops : isNameChar stop = false) :
    simpleName (name ++ stop :: text) = some (name, stop :: text) := by
  obtain ⟨first, more, rfl, starts, each⟩ := named
  have taken : (more ++ stop :: text).takeWhile isNameChar = more := by
    rw [List.takeWhile_append_of_pos each]
    simp [stops]
  simp [simpleName, starts, taken]

private theorem prefixedName_append {name : List Char} (named : IsName name)
    (stops : isNameChar stop = false) (single : stop ≠ ':') :
    prefixedName (name ++ stop :: text) = some (⟨[], name⟩, stop :: text) := by
  rw [prefixedName, simpleName_append named stops]
  simp only [Option.bind_eq_bind, Option.bind_some]
  split
  next same => exact absurd (List.cons.inj same).1 single
  · rfl

private theorem resolveElement_plain (name : List Char) :
    resolveElement startScope ⟨[], name⟩ = some (.plain (String.ofList name)) := rfl

/-- A start tag without attributes that is left open. -/
theorem startTag_opened {name : List Char} (fuel : Nat) (named : IsName name) :
    startTag .empty startScope (fuel + 1) (name ++ '>' :: text) =
      some (⟨⟨[], name⟩, .plain (String.ofList name), [], startScope, .opened⟩, text) := by
  rw [startTag, prefixedName_append named (by decide) (by decide)]
  rfl

/-- A start tag without attributes that is closed at once. -/
theorem startTag_closed {name : List Char} (fuel : Nat) (named : IsName name) :
    startTag .empty startScope (fuel + 1) (name ++ '/' :: '>' :: text) =
      some (⟨⟨[], name⟩, .plain (String.ofList name), [], startScope, .closed⟩, text) := by
  rw [startTag, prefixedName_append named (by decide) (by decide)]
  rfl

/-- Without steps no attributes are read, and so no tag. -/
theorem startTag_zero (type : DocumentType) (scope : Scope) :
    startTag type scope 0 text = none := by
  rw [startTag]
  cases prefixedName text <;> rfl

/-- An attribute between quotes is read if a document may contain its characters. -/
private theorem readAttribute_append {name value : List Char} (named : IsName name)
    (apart : '"' ∉ value) :
    readAttribute (name ++ '=' :: '"' :: value ++ '"' :: text) =
      if value.all isDocumentChar = true then some ((⟨[], name⟩, value), text) else none := by
  have taken : (value ++ '"' :: text).takeWhile (· != '"') = value := by
    rw [List.takeWhile_append_of_pos fun c member => by
      rw [bne_iff_ne]; rintro rfl; exact apart member]
    simp
  have equals : skipGaps ('=' :: '"' :: (value ++ '"' :: text)) =
      '=' :: '"' :: (value ++ '"' :: text) := rfl
  have quotes : skipGaps ('"' :: (value ++ '"' :: text)) = '"' :: (value ++ '"' :: text) := rfl
  rw [List.append_assoc, List.cons_append, List.cons_append, readAttribute,
    prefixedName_append named (by decide) (by decide)]
  simp only [Option.bind_eq_bind, Option.bind_some, equals, quotes, taken, List.drop_left]
  simp

/-- One attribute, whose value stands between quotes, in front of what else the tag has. -/
private theorem attributes_append {key value : List Char} (fuel : Nat) (keyed : IsName key)
    (apart : '"' ∉ value) :
    attributes (fuel + 1) (' ' :: (key ++ '=' :: '"' :: value ++ '"' :: text)) =
      if value.all isDocumentChar = true then
        (attributes fuel text).map fun read => ((⟨[], key⟩, value) :: read.1, read.2)
      else none := by
  obtain ⟨first, more, rfl, starts, each⟩ := id keyed
  -- The name of the attribute starts with none of the characters that end the tag.
  have head : isGap first = false ∧ first ≠ '>' ∧ first ≠ '/' := by
    refine ⟨?_, ?_, ?_⟩
    · cases gap : isGap first with
      | false => rfl
      | true =>
        simp only [isGap, Bool.or_eq_true, decide_eq_true_eq] at gap
        rcases gap with ((rfl | rfl) | rfl) | rfl <;> revert starts <;> decide
    · rintro rfl; revert starts; decide
    · rintro rfl; revert starts; decide
  have skipped : skipGaps (' ' :: (first :: more ++ '=' :: '"' :: value ++ '"' :: text)) =
      first :: more ++ '=' :: '"' :: value ++ '"' :: text := by
    have blank : isGap ' ' = true := rfl
    simp [skipGaps, head.1, blank]
  have spaced : startsWithGap (' ' :: (first :: more ++ '=' :: '"' :: value ++ '"' :: text)) =
      true := rfl
  have read : readAttribute (first :: more ++ '=' :: '"' :: value ++ '"' :: text) = _ :=
    readAttribute_append keyed apart
  rw [attributes, skipped]
  simp only [List.cons_append] at read spaced ⊢
  split
  next same => exact absurd (List.cons.inj same).1 head.2.1
  next same => exact absurd (List.cons.inj same).1 head.2.2
  next =>
    rw [if_pos spaced, read]
    split
    · simp only [Option.bind_eq_bind, Option.bind_some]
      cases attributes fuel text <;> rfl
    · rfl

/-- A start tag with one attribute that declares no namespace. -/
theorem startTag_attribute {name key value meant : List Char} (fuel : Nat) (named : IsName name)
    (keyed : IsName key) (other : key ≠ "xmlns".toList) (apart : '"' ∉ value)
    (valid : value.all isDocumentChar = true) (known : EntityTable.empty.value value = some meant) :
    startTag .empty startScope (fuel + 2)
        (name ++ ' ' :: (key ++ '=' :: '"' :: value ++ '"' :: '>' :: text)) =
      some (⟨⟨[], name⟩, .plain (String.ofList name),
        [(.plain (String.ofList key), String.ofList meant)], startScope, .opened⟩, text) := by
  have tail : attributes (fuel + 1) ('>' :: text) = some ([], .opened, text) := rfl
  have completed : DocumentType.empty.complete ⟨[], name⟩ [(⟨[], key⟩, value)] =
      some [(⟨[], key⟩, meant)] := by
    simp [DocumentType.complete, DocumentType.value, DocumentType.empty, known,
      DocumentType.defaults]
  have undeclared : declaredSpace (⟨[], key⟩, meant) = none := by
    have differs : (key == "xmlns".toList) = false := beq_eq_false_iff_ne.mpr other
    unfold declaredSpace
    dsimp only
    rw [differs]
    rfl
  rw [startTag, prefixedName_append named (by decide) (by decide)]
  simp only [Option.bind_eq_bind, Option.bind_some, attributes_append (fuel + 1) keyed apart,
    valid, if_true, tail, Option.map_some, completed]
  simp [extendScope, undeclared, resolveElement_plain, resolveAttributes, resolveAttribute,
    isDeclaration]
  rfl

/-- A start tag with an attribute is read only if the attribute has a value. -/
private theorem value_of_startTag {name key value : List Char} {tag : StartTag} {fuel : Nat}
    (named : IsName name) (keyed : IsName key) (apart : '"' ∉ value)
    (read : startTag .empty startScope fuel
      (name ++ ' ' :: (key ++ '=' :: '"' :: value ++ '"' :: '>' :: text)) = some (tag, rest)) :
    (∃ less, fuel = less + 2) ∧ value.all isDocumentChar = true ∧
      ∃ meant, EntityTable.empty.value value = some meant := by
  rw [startTag, prefixedName_append named (by decide) (by decide)] at read
  simp only [Option.bind_eq_bind, Option.bind_some] at read
  obtain ⟨entries, tagged, read⟩ := Option.bind_eq_some_iff.mp read
  cases fuel with
  | zero => simp [attributes] at tagged
  | succ fuel =>
    rw [attributes_append fuel keyed apart] at tagged
    split at tagged
    case isFalse => cases tagged
    case isTrue valid =>
      obtain ⟨last, later, rfl⟩ := Option.map_eq_some_iff.mp tagged
      cases fuel with
      | zero => simp [attributes] at later
      | succ fuel =>
        cases later
        refine ⟨⟨fuel, rfl⟩, valid, ?_⟩
        obtain ⟨_, completed, -⟩ := Option.bind_eq_some_iff.mp read
        cases known : EntityTable.empty.value value with
        | some meant => exact ⟨meant, rfl⟩
        | none =>
          simp [DocumentType.complete, DocumentType.value, DocumentType.empty, known] at completed

end Tags

/-! ### Elements -/

variable {text rest : Rest} {fuel : Nat} {found : Element}

/-- An element without attributes and content. -/
theorem element_closed {name : List Char} (named : IsName name)
    (read : element bareContext fuel (name ++ '/' :: '>' :: text) = some (found, rest)) :
    found = .plain (String.ofList name) [] [] ∧ rest = text := by
  cases fuel with
  | zero => simp [element] at read
  | succ fuel =>
    rw [element] at read
    cases fuel with
    | zero => simp [startTag_zero] at read
    | succ fuel =>
      obtain ⟨⟨tag, after⟩, tagged, made⟩ := Option.bind_eq_some_iff.mp read
      cases (startTag_closed fuel named).symm.trans tagged
      cases made
      exact ⟨rfl, rfl⟩

/-- The text starts with the end tag of a name, and the rest comes after it. -/
def Ends (name : List Char) (text rest : Rest) : Prop :=
  ∃ between, after? "</" text = some between ∧ endTag ⟨[], name⟩ between = some rest

theorem Ends.rest_eq {name : List Char}
    (ends : Ends name ('<' :: '/' :: name ++ '>' :: text) rest) : rest = text := by
  obtain ⟨between, opened, ended⟩ := ends
  have start : after? "</" ('<' :: '/' :: name ++ '>' :: text) = some (name ++ '>' :: text) := rfl
  cases start.symm.trans opened
  have gap : skipGaps ('>' :: text) = '>' :: text := rfl
  simp [endTag, PrefixedName.written, gap] at ended
  exact ended.symm

/-- An element that is left open has the content behind its start tag, up to its end tag. -/
private theorem element_cases (tag : StartTag) (after : Rest) {name : List Char}
    (tagged : ∀ fuel read, startTag .empty startScope fuel text = some read → read = (tag, after))
    (shape : tag.ending = .opened ∧ tag.scope = startScope ∧ tag.written = ⟨[], name⟩)
    (read : element bareContext fuel text = some (found, rest)) :
    ∃ inner ended, Reads after inner ended ∧ Ends name ended rest ∧
      found = .mk ⟨tag.name, tag.attributes, inner.text, []⟩ inner.elements := by
  cases fuel with
  | zero => simp [element] at read
  | succ fuel =>
    rw [element] at read
    obtain ⟨⟨other, between⟩, started, read⟩ := Option.bind_eq_some_iff.mp read
    cases tagged fuel _ started
    obtain ⟨opened, scope, spelled⟩ := shape
    simp only [opened, reduceCtorEq, if_false, scope, spelled] at read
    obtain ⟨⟨inner, ended⟩, held, read⟩ := Option.bind_eq_some_iff.mp read
    obtain ⟨closing, marked, read⟩ := Option.bind_eq_some_iff.mp read
    obtain ⟨last, closed, read⟩ := Option.bind_eq_some_iff.mp read
    cases read
    exact ⟨inner, ended, ⟨fuel, held⟩, ⟨closing, marked, closed⟩, rfl⟩

/-- An element without attributes. -/
theorem element_bare {name : List Char} (named : IsName name)
    (read : element bareContext fuel (name ++ '>' :: text) = some (found, rest)) :
    ∃ inner ended, Reads text inner ended ∧ Ends name ended rest ∧
      found = .mk ⟨.plain (String.ofList name), [], inner.text, []⟩ inner.elements := by
  refine element_cases ⟨⟨[], name⟩, .plain (String.ofList name), [], startScope, .opened⟩ text
    (fun fuel read tagged => ?_) ⟨rfl, rfl, rfl⟩ read
  cases fuel with
  | zero => simp [startTag_zero] at tagged
  | succ fuel => exact (Option.some.inj ((startTag_opened fuel named).symm.trans tagged)).symm

/-- An element with one attribute that declares no namespace. -/
theorem element_attribute {name key value : List Char} (named : IsName name) (keyed : IsName key)
    (other : key ≠ "xmlns".toList) (apart : '"' ∉ value)
    (read : element bareContext fuel
      (name ++ ' ' :: (key ++ '=' :: '"' :: value ++ '"' :: '>' :: text)) = some (found, rest)) :
    ∃ meant inner ended, EntityTable.empty.value value = some meant ∧ Reads text inner ended ∧
      Ends name ended rest ∧
      found = .mk ⟨.plain (String.ofList name),
        [(.plain (String.ofList key), String.ofList meant)], inner.text, []⟩ inner.elements := by
  have fixed : ∃ meant, EntityTable.empty.value value = some meant ∧
      ∀ fuel read, startTag .empty startScope fuel
        (name ++ ' ' :: (key ++ '=' :: '"' :: value ++ '"' :: '>' :: text)) = some read →
          read = (⟨⟨[], name⟩, .plain (String.ofList name),
            [(.plain (String.ofList key), String.ofList meant)], startScope, .opened⟩, text) := by
    cases fuel with
    | zero => simp [element] at read
    | succ fuel =>
      rw [element] at read
      obtain ⟨_, tagged, -⟩ := Option.bind_eq_some_iff.mp read
      obtain ⟨-, valid, meant, known⟩ := value_of_startTag named keyed apart tagged
      refine ⟨meant, known, fun fuel read tagged => ?_⟩
      obtain ⟨⟨less, rfl⟩, -, -⟩ := value_of_startTag named keyed apart tagged
      exact Option.some.inj (tagged.symm.trans
        (startTag_attribute less named keyed other apart valid known))
  obtain ⟨meant, known, tagged⟩ := fixed
  obtain ⟨inner, ended, held, closed, rfl⟩ := element_cases _ _ tagged ⟨rfl, rfl, rfl⟩ read
  exact ⟨meant, inner, ended, known, held, closed, rfl⟩

/-! ### Characters of markup -/

/-- The references to the characters of markup, as they are written. -/
private theorem reference?_predefined {name : List Char} (text : Rest)
    (member : name ∈ ["amp".toList, "lt".toList, "gt".toList, "quot".toList]) :
    reference? (name ++ ';' :: text) = some (.name name, text) := by
  have stops : isNameChar ';' = false := by decide
  have named : IsName name := by
    simp only [List.mem_cons, List.not_mem_nil, or_false] at member
    rcases member with rfl | rfl | rfl | rfl
    · exact ⟨'a', "mp".toList, rfl, by decide, List.all_eq_true.mp (by decide)⟩
    · exact ⟨'l', "t".toList, rfl, by decide, List.all_eq_true.mp (by decide)⟩
    · exact ⟨'g', "t".toList, rfl, by decide, List.all_eq_true.mp (by decide)⟩
    · exact ⟨'q', "uot".toList, rfl, by decide, List.all_eq_true.mp (by decide)⟩
  obtain ⟨first, more, rfl, starts, each⟩ := id named
  have letter : first ≠ '#' := by
    rintro rfl
    revert starts
    decide
  rw [List.cons_append, reference?]
  · rw [← List.cons_append, simpleName_append named stops]
    rfl
  all_goals simp [letter]

private theorem reference?_apostrophe (text : Rest) :
    reference? ("#x27;".toList ++ text) = some (.number '\'', text) := by
  have digits : ("27;".toList ++ text).takeWhile Text.isHexDigit = "27".toList := rfl
  change numberReference 16 Text.isHexDigit ("27;".toList ++ text) = _
  rw [numberReference, digits]
  rfl

/-- What is written for a character of markup is read as a reference that stands for it. -/
theorem reference?_of_mem {c : Char} {written : List Char}
    (member : (c, written) ∈ Text.quoteReferences) :
    ∃ inner reference, written = '&' :: inner ∧
      (∀ text, reference? (inner ++ text) = some (reference, text)) ∧ reference.StandsFor c := by
  have named (name : List Char)
      (member : name ∈ ["amp".toList, "lt".toList, "gt".toList, "quot".toList])
      (means : predefinedChars.lookup name = some c) :
      ∃ inner reference, '&' :: (name ++ [';']) = '&' :: inner ∧
        (∀ text, reference? (inner ++ text) = some (reference, text)) ∧ reference.StandsFor c :=
    ⟨name ++ [';'], .name name, rfl,
      fun text => by simpa using reference?_predefined text member, .name means⟩
  simp only [Text.quoteReferences, Text.contentReferences, List.mem_cons, Prod.mk.injEq,
    List.not_mem_nil, or_false] at member
  rcases member with ⟨rfl, rfl⟩ | ⟨rfl, rfl⟩ | ⟨rfl, rfl⟩ | ⟨rfl, rfl⟩ | ⟨rfl, rfl⟩
  · exact named "quot".toList (by decide) rfl
  · exact ⟨"#x27;".toList, _, rfl, reference?_apostrophe, .number⟩
  · exact named "amp".toList (by decide) rfl
  · exact named "lt".toList (by decide) rfl
  · exact named "gt".toList (by decide) rfl

/-! ### Values -/

/-- With some number of steps the written value means the other one. -/
def ReadsValue (text value : List Char) : Prop := ∃ fuel, expandValue .empty fuel text = some value

namespace ReadsValue

variable {text value : List Char} {c : Char}

/-- A character that neither starts markup nor a reference. -/
def isOrdinary (c : Char) : Bool := c != '&' && c != '<'

theorem isOrdinary_of_notMem (plain : c ∉ Text.quoteReferences.map Prod.fst) :
    isOrdinary c = true := by
  simp only [isOrdinary, Bool.and_eq_true, bne_iff_ne]
  constructor <;> rintro rfl <;> exact plain (by decide)

theorem expandValue_ordinary (fuel : Nat) (ordinary : isOrdinary c = true) :
    expandValue .empty (fuel + 1) (c :: text) =
      (expandValue .empty fuel (text.drop (text.takeWhile isOrdinary).length)).map
        (spaced (c :: text.takeWhile isOrdinary) ++ ·) := by
  have apart : c ≠ '<' ∧ c ≠ '&' := by
    refine ⟨?_, ?_⟩ <;> rintro rfl <;> cases ordinary
  rw [expandValue]
  · change (c != '&' && c != '<') = true at ordinary
    simp only [List.takeWhile_cons, ordinary, if_true, List.length_cons, List.drop_succ_cons]
    rfl
  all_goals simp [apart]

/-- A character of a value means itself, and a gap means a space. -/
theorem char (ordinary : isOrdinary c = true) (reads : ReadsValue (c :: text) value) :
    ∃ more, ReadsValue text more ∧ value = (if isGap c then ' ' else c) :: more := by
  obtain ⟨fuel, read⟩ := reads
  cases fuel with
  | zero => simp [expandValue] at read
  | succ fuel =>
    rw [expandValue_ordinary fuel ordinary] at read
    obtain ⟨more, later, rfl⟩ := Option.map_eq_some_iff.mp read
    cases text with
    | nil => exact ⟨more, ⟨fuel, later⟩, rfl⟩
    | cons next text =>
      cases follows : isOrdinary next with
      | false =>
        simp only [List.takeWhile_cons, follows, Bool.false_eq_true, if_false, List.length_nil,
          List.drop_zero] at later ⊢
        exact ⟨more, ⟨fuel, later⟩, rfl⟩
      | true =>
        simp only [List.takeWhile_cons, follows, if_true, List.length_cons,
          List.drop_succ_cons] at later ⊢
        refine ⟨spaced (next :: text.takeWhile isOrdinary) ++ more, ⟨fuel + 1, ?_⟩, rfl⟩
        rw [expandValue_ordinary fuel follows, later]
        rfl

/-- A reference in a value means its character. -/
theorem reference {written : List Char} {reference : Reference}
    (refers : reference? (written ++ text) = some (reference, text))
    (means : reference.StandsFor c) (reads : ReadsValue ('&' :: written ++ text) value) :
    ∃ more, ReadsValue text more ∧ value = c :: more := by
  obtain ⟨fuel, read⟩ := reads
  cases fuel with
  | zero => simp [expandValue] at read
  | succ fuel =>
    rw [List.cons_append, expandValue, refers] at read
    cases means with
    | number =>
      obtain ⟨more, later, rfl⟩ := Option.map_eq_some_iff.mp read
      exact ⟨more, ⟨fuel, later⟩, rfl⟩
    | name known =>
      simp only [known] at read
      obtain ⟨more, later, rfl⟩ := Option.map_eq_some_iff.mp read
      exact ⟨more, ⟨fuel, later⟩, rfl⟩

end ReadsValue

/-- The value of an attribute is what was escaped, with spaces for its gaps. -/
theorem value_escapeQuotes {text value : List Char}
    (known : EntityTable.empty.value (Text.escapeQuotes text) = some value) :
    value = spaced text := by
  have reads : ReadsValue (Text.escapeQuotes text) value := ⟨_, known⟩
  clear known
  induction text generalizing value with
  | nil =>
    obtain ⟨fuel, read⟩ := reads
    cases fuel with
    | zero => simp [expandValue] at read
    | succ fuel =>
      rw [Text.escapeQuotes, List.flatMap_nil, expandValue] at read
      cases read
      rfl
  | cons c text ih =>
    change ReadsValue (Text.escapeQuotesChar c ++ Text.escapeQuotes text) value at reads
    rcases Text.writesReferences_quotes c with special | ⟨same, plain⟩
    · obtain ⟨written, reference, same, refers, means⟩ := reference?_of_mem special
      rw [same] at reads
      obtain ⟨more, later, rfl⟩ := reads.reference (refers _) means
      -- No gap has a reference, so that the character is not made a space.
      have solid : isGap c = false := by
        have all : ∀ entry ∈ Text.quoteReferences, isGap entry.1 = false := by decide
        exact all _ special
      simp [spaced, solid, ih later]
    · rw [same] at reads
      obtain ⟨more, later, rfl⟩ := reads.char (ReadsValue.isOrdinary_of_notMem plain)
      exact congrArg _ (ih later)

/-! ### Line breaks -/

theorem lineFeeds_cons (c : Char) (text : List Char) :
    lineFeeds (c :: text) =
      (if c = '\r' then if text.head? = some '\n' then [] else ['\n'] else [c]) ++
        lineFeeds text := by
  cases text with
  | nil => by_cases breaks : c = '\r' <;> simp [lineFeeds, breaks]
  | cons next text =>
    by_cases breaks : c = '\r' <;> by_cases paired : next = '\n' <;>
      simp [lineFeeds, breaks, paired]

/-- Line breaks are read apart where the second text does not start with a line feed. -/
theorem lineFeeds_append {text rest : List Char} (apart : rest.head? ≠ some '\n') :
    lineFeeds (text ++ rest) = lineFeeds text ++ lineFeeds rest := by
  induction text with
  | nil => rfl
  | cons c text ih =>
    rw [List.cons_append, lineFeeds_cons, lineFeeds_cons, ih]
    cases text with
    | nil => simp [apart]
    | cons next text => simp

/-- Without carriage returns every line break is a line feed already. -/
theorem lineFeeds_of_notMem {text : List Char} (none : '\r' ∉ text) (rest : List Char) :
    lineFeeds (text ++ rest) = text ++ lineFeeds rest := by
  induction text with
  | nil => rfl
  | cons c text ih =>
    simp only [List.mem_cons, not_or] at none
    rw [List.cons_append, lineFeeds_cons, if_neg (Ne.symm none.1), ih none.2]
    rfl

theorem lineFeeds_eq_self {text : List Char} (none : '\r' ∉ text) : lineFeeds text = text := by
  have ends : lineFeeds [] = [] := rfl
  simpa [ends] using lineFeeds_of_notMem none []

theorem return_notMem_lineFeeds (text : List Char) : '\r' ∉ lineFeeds text := by
  induction text with
  | nil => exact List.not_mem_nil
  | cons c text ih =>
    rw [lineFeeds_cons, List.mem_append, not_or]
    refine ⟨?_, ih⟩
    split
    · split <;> simp
    next other => simpa using Ne.symm other

theorem length_lineFeeds_le (text : List Char) : (lineFeeds text).length ≤ text.length := by
  induction text with
  | nil => exact Nat.le_refl 0
  | cons c text ih =>
    rw [lineFeeds_cons, List.length_append, List.length_cons, Nat.add_comm]
    refine Nat.add_le_add ih ?_
    split
    · split <;> simp
    · simp

private theorem head?_escapeQuotes (text : List Char) :
    (Text.escapeQuotes text).head? = some '\n' ↔ text.head? = some '\n' := by
  cases text with
  | nil => rfl
  | cons c text =>
    change (Text.escapeQuotesChar c ++ Text.escapeQuotes text).head? = _ ↔ _
    rcases Text.writesReferences_quotes c with special | ⟨same, -⟩
    · obtain ⟨written, -, same, -, -⟩ := reference?_of_mem special
      have other : c ≠ '\n' := by
        have all : ∀ entry ∈ Text.quoteReferences, entry.1 ≠ '\n' := by decide
        exact all _ special
      simp [same, other]
    · simp [same]

/-- Escaping leaves line breaks alone. -/
theorem lineFeeds_escapeQuotes (text : List Char) :
    lineFeeds (Text.escapeQuotes text) = Text.escapeQuotes (lineFeeds text) := by
  induction text with
  | nil => rfl
  | cons c text ih =>
    have cons (text : List Char) : Text.escapeQuotes (c :: text) =
        Text.escapeQuotesChar c ++ Text.escapeQuotes text := rfl
    rw [cons]
    by_cases returns : c = '\r'
    · subst returns
      change lineFeeds ('\r' :: Text.escapeQuotes text) = _
      rw [lineFeeds_cons, lineFeeds_cons, ih]
      simp only [if_true, head?_escapeQuotes]
      split <;> rfl
    · have none : '\r' ∉ Text.escapeQuotesChar c :=
        Text.writesReferences_quotes.notMem (by decide) (.inr (Ne.symm returns))
      rw [lineFeeds_of_notMem none, ih, lineFeeds_cons, if_neg returns]
      rfl

theorem quote_notMem_escapeQuotes (text : List Char) : '"' ∉ Text.escapeQuotes text :=
  Text.writesReferences_quotes.notMem_flatMap (by decide) (by decide) text

/-! ### Documents -/

/-- A document that is one `div` is read as this element. -/
theorem readDocument_div (inner : List Char) :
    readDocument ("<div>".toList ++ inner ++ "</div>".toList) =
      let text := "div".toList ++ '>' :: lineFeeds (inner ++ "</div>".toList)
      (element bareContext (2 * text.length + 4) text).bind fun read =>
        (skipMisc read.2.length read.2).bind fun rest =>
          if rest.isEmpty = true then some read.1 else none := by
  have fed : lineFeeds ("<div>".toList ++ inner ++ "</div>".toList) =
      '<' :: ("div".toList ++ '>' :: lineFeeds (inner ++ "</div>".toList)) := by
    rw [List.append_assoc]
    exact lineFeeds_of_notMem (by decide) _
  have start : "<div>".toList ++ inner ++ "</div>".toList =
      '<' :: ("div>".toList ++ inner ++ "</div>".toList) := rfl
  rw [start] at fed ⊢
  generalize "div>".toList ++ inner ++ "</div>".toList = document at fed ⊢
  rw [readDocument, fed]
  · generalize lineFeeds (inner ++ "</div>".toList) = text
    -- Nothing stands before the element, and no entities are declared.
    have prolog : readProlog ('<' :: ("div".toList ++ '>' :: text)) =
        some (.empty, '<' :: ("div".toList ++ '>' :: text)) := rfl
    have opened : after? "<" ('<' :: ("div".toList ++ '>' :: text)) =
        some ("div".toList ++ '>' :: text) := rfl
    have small (size : Nat) (text : List Char) :
        DocumentType.empty.entities.overflows size text = false := rfl
    have weightless : DocumentType.empty.entities.weight = 0 := rfl
    simp only [prolog, Option.bind_eq_bind, Option.bind_some, small, Bool.false_eq_true, if_false,
      opened, weightless, Nat.add_zero]
    rfl
  · simp

end Artboard.Markup
