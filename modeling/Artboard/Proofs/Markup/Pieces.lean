import Artboard.Markup.Html
import Artboard.Proofs.Text.Entity
import Artboard.Proofs.Text.Lines
import Mathlib.Data.List.Forall2

/-!
# Pieces of written markup

A written tree is a row of pieces: attribute values, character data and the marks
between them. Indenting its lines changes each piece for itself, and leaves a piece
without a line boundary as it is.
-/
namespace Artboard.Markup

open Text

/-- Marks are names, brackets and quotes. Character data is raw in scripts and styles. -/
inductive Piece where
  | mark (chars : List Char)
  | value (chars : List Char)
  | data (raw : Bool) (chars : List Char)
deriving DecidableEq

namespace Piece

def written : Piece → List Char
  | mark chars => chars
  | value chars => escapeAttribute chars
  | data raw chars => if raw then chars else escapeContent chars

/-- The pieces are of one kind, and the second one holds the first one reflowed. -/
inductive Reflows : Piece → Piece → Prop
  | mark {chars result} : Text.Reflows chars result → Reflows (mark chars) (mark result)
  | value {chars result} : Text.Reflows chars result → Reflows (value chars) (value result)
  | data {raw chars result} : Text.Reflows chars result → Reflows (data raw chars) (data raw result)

end Piece

/-- What a row of pieces is written as. -/
def writtenAll (pieces : List Piece) : List Char := pieces.flatMap Piece.written

theorem writtenAll_append (pieces others : List Piece) :
    writtenAll (pieces ++ others) = writtenAll pieces ++ writtenAll others :=
  List.flatMap_append

/-! ### The pieces of a tree -/

def attributePieces (prefixes : Prefixes) (entry : Attribute) : List Piece :=
  [.mark (' ' :: writtenName prefixes entry.1 ++ "=\"".toList), .value entry.2.toList, .mark ['"']]

def startPieces (prefixes : Prefixes) (declared : List Char) (head : Head) : List Piece :=
  let name := writtenName prefixes head.name
  .mark ('<' :: (name ++ declared)) :: (head.attributes.flatMap (attributePieces prefixes) ++
    [.mark ['>'], .data (rawTextElements.contains (kindOf name)) head.text])

def endPieces (prefixes : Prefixes) (head : Head) : List Piece :=
  let name := writtenName prefixes head.name
  (if voidElements.contains (kindOf name) then []
    else [.mark ("</".toList ++ (name ++ ['>']))]) ++ [.data false head.tail]

mutual

/-- The pieces of an element and its tail. -/
def elementPieces (prefixes : Prefixes) (declared : List Char) : Element → List Piece
  | .mk head children =>
    startPieces prefixes declared head ++
      (elementsPieces prefixes children ++ endPieces prefixes head)

def elementsPieces (prefixes : Prefixes) : List Element → List Piece
  | [] => []
  | element :: rest => elementPieces prefixes [] element ++ elementsPieces prefixes rest

end

/-- The pieces of a tree as it is written. -/
def Element.pieces (element : Element) : List Piece :=
  elementPieces (prefixesOf element) (declarePrefixes (prefixesOf element)) element

private theorem written_attribute (prefixes : Prefixes) (entry : Attribute) :
    writtenAll (attributePieces prefixes entry) = writeAttribute prefixes entry := by
  simp [writtenAll, attributePieces, Piece.written, writeAttribute]

private theorem written_start (prefixes : Prefixes) (declared : List Char) (head : Head) :
    writtenAll (startPieces prefixes declared head) = writeStart prefixes declared head := by
  have attributes : writtenAll (head.attributes.flatMap (attributePieces prefixes)) =
      head.attributes.flatMap (writeAttribute prefixes) := by
    rw [writtenAll, List.flatMap_assoc]
    exact congrArg (List.flatMap · _) (funext (written_attribute prefixes))
  rw [startPieces, ← List.singleton_append, writtenAll_append, writtenAll_append, attributes]
  simp [writtenAll, Piece.written, writeStart, writeText]

private theorem written_end (prefixes : Prefixes) (head : Head) :
    writtenAll (endPieces prefixes head) = writeEnd prefixes head := by
  rw [endPieces, writeEnd]
  split <;> simp [writtenAll, Piece.written]

mutual

private theorem written_element (prefixes : Prefixes) (declared : List Char) (element : Element)
    (rest : List Char) :
    writeElement prefixes declared element rest =
      writtenAll (elementPieces prefixes declared element) ++ rest := by
  match element with
  | .mk head children =>
    rw [writeElement, elementPieces, written_elements, writtenAll_append, writtenAll_append,
      written_start, written_end]
    simp

private theorem written_elements (prefixes : Prefixes) (elements : List Element)
    (rest : List Char) :
    writeElements prefixes elements rest =
      writtenAll (elementsPieces prefixes elements) ++ rest := by
  match elements with
  | [] => rfl
  | element :: more =>
    rw [writeElements, elementsPieces, written_elements, written_element, writtenAll_append]
    simp

end

/-- The markup of a tree is written piece by piece. -/
theorem html_eq_written (element : Element) : element.html = writtenAll element.pieces := by
  rw [Element.html, written_element, List.append_nil]
  rfl

/-! ### Reflowed pieces -/

private theorem keepsLines_plain : KeepsLines fun c => [c] where
  blank _ _ := rfl
  inside c inside := by simpa using inside

/-- Neither the escaped characters nor their references have to do with lines. -/
private theorem keepsLines_of_writes {references : List (Char × List Char)}
    {write : Char → List Char} (writes : WritesReferences references write)
    (each : ∀ entry ∈ references,
      isBlank entry.1 = false ∧ (entry.2.all fun d => isLineBoundary d = false) = true) :
    KeepsLines write where
  blank c blank := by
    rcases writes c with special | ⟨same, -⟩
    · simp [(each _ special).1] at blank
    · exact same
  inside _ inside := writes.forall_mem (fun entry member => (each entry member).2) inside

private theorem keepsLines_content : KeepsLines escapeContentChar :=
  keepsLines_of_writes writesReferences_content (by decide)

private theorem keepsLines_attribute : KeepsLines escapeAttributeChar :=
  keepsLines_of_writes writesReferences_attribute (by decide)

private theorem exists_reflows_piece {start : List Char} (indents : allBlank start = true)
    (piece : Piece) (rest : List Char) :
    ∃ result, piece.Reflows result ∧
      reflowed start (piece.written ++ rest) = result.written ++ reflowed start rest := by
  have plain (chars : List Char) : chars.flatMap (fun c => [c]) = chars := List.flatMap_singleton' _
  cases piece with
  | mark chars =>
    obtain ⟨result, reflows, same⟩ := exists_reflows keepsLines_plain indents chars rest
    rw [plain, plain] at same
    exact ⟨.mark result, .mark reflows, same⟩
  | value chars =>
    obtain ⟨result, reflows, same⟩ := exists_reflows keepsLines_attribute indents chars rest
    exact ⟨.value result, .value reflows, same⟩
  | data raw chars =>
    cases raw with
    | true =>
      obtain ⟨result, reflows, same⟩ := exists_reflows keepsLines_plain indents chars rest
      rw [plain, plain] at same
      exact ⟨.data true result, .data reflows, same⟩
    | false =>
      obtain ⟨result, reflows, same⟩ := exists_reflows keepsLines_content indents chars rest
      exact ⟨.data false result, .data reflows, same⟩

/-- A row of pieces is reflowed piece by piece. -/
theorem exists_reflows_pieces {start : List Char} (indents : allBlank start = true)
    (pieces : List Piece) :
    ∃ results, List.Forall₂ Piece.Reflows pieces results ∧
      reflowed start (writtenAll pieces) = writtenAll results := by
  induction pieces with
  | nil => exact ⟨[], .nil, rfl⟩
  | cons piece rest ih =>
    obtain ⟨results, each, same⟩ := ih
    obtain ⟨result, reflows, first⟩ := exists_reflows_piece indents piece (writtenAll rest)
    refine ⟨result :: results, .cons reflows each, ?_⟩
    rw [writtenAll, List.flatMap_cons]
    exact first.trans (by rw [same]; rfl)

end Artboard.Markup
