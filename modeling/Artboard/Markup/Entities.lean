import Artboard.Markup.Lexical

/-!
# Entities

A document type gives names to texts. A reference to such a name stands for its
text, whose own references are replaced in turn. No entity may contain itself:
while one is replaced its name is closed, so that the replacement comes to an end.
-/
namespace Artboard.Markup

inductive Entity where
  /-- The text that the name stands for. -/
  | internal (text : List Char)
  /-- An entity without a text: it is kept elsewhere, or it is being replaced. -/
  | closed

/-- The entities by name. -/
structure EntityTable where
  entries : List (List Char × Entity)
  /-- Some declarations may be missing, so that an unknown name is no mistake in a value. -/
  incomplete : Bool

namespace EntityTable

def empty : EntityTable := ⟨[], false⟩

def find? (table : EntityTable) (name : List Char) : Option Entity := table.entries.lookup name

/-- The table while an entity is replaced. -/
def close (table : EntityTable) (name : List Char) : EntityTable :=
  { table with entries := (name, .closed) :: table.entries }

/-- The text of an entity in content, where every name must be known. -/
def text? (table : EntityTable) (name : List Char) : Option (List Char) :=
  match table.find? name with
  | some (.internal text) => some text
  | _ => none

end EntityTable

def Entity.size : Entity → Nat
  | .internal text => text.length
  | .closed => 0

/-- The texts of all entities together. -/
def EntityTable.weight (table : EntityTable) : Nat :=
  table.entries.foldl (fun total entry => total + entry.2.size) 0

/-- The text that an entity is declared with: numbers are replaced at once and names later. A
reference to a parameter may not occur. -/
def declaredText : Nat → Rest → Option (List Char)
  | 0, _ => none
  | fuel + 1, text =>
    match text with
    | [] => some []
    | '%' :: _ => none
    | '&' :: rest =>
      match reference? rest with
      | some (.number c, rest) => (declaredText fuel rest).map (c :: ·)
      | some (.name name, rest) => (declaredText fuel rest).map fun more => '&' :: name ++ ';' :: more
      | none => none
    | _ =>
      let plain := text.takeWhile fun c => c != '&' && c != '%'
      (declaredText fuel (text.drop plain.length)).map (plain ++ ·)

/-- Line breaks and tabulators are spaces in a value. -/
def spaced (text : List Char) : List Char := text.map fun c => if isGap c then ' ' else c

/-- A value with its references replaced; markup may not start in it. -/
def expandValue (table : EntityTable) : Nat → Rest → Option (List Char)
  | 0, _ => none
  | fuel + 1, text =>
    match text with
    | [] => some []
    | '<' :: _ => none
    | '&' :: rest =>
      match reference? rest with
      | none => none
      | some (.number c, rest) => (expandValue table fuel rest).map (c :: ·)
      | some (.name name, rest) =>
        match predefinedChars.lookup name, table.find? name with
        | some c, _ => (expandValue table fuel rest).map (c :: ·)
        | none, some (.internal inner) =>
          match expandValue (table.close name) fuel inner, expandValue table fuel rest with
          | some found, some more => some (found ++ more)
          | _, _ => none
        | none, some .closed => none
        | none, none => if table.incomplete then expandValue table fuel rest else none
    | _ =>
      let plain := text.takeWhile fun c => c != '&' && c != '<'
      (expandValue table fuel (text.drop plain.length)).map (spaced plain ++ ·)

/-- The value between quotes. -/
def EntityTable.value (table : EntityTable) (written : List Char) : Option (List Char) :=
  expandValue table (written.length + table.weight + 1) written

/-- Single spaces between words and none around them. -/
def tokenized (value : List Char) : List Char :=
  (value.foldr (fun c (out : List Char) =>
    if c = ' ' && (out.isEmpty || out.head? == some ' ') then out else c :: out) []).dropWhile
      (· == ' ')

/-! ## Growth -/

/-- The names that a text refers to. -/
def mentions (text : List Char) : List (List Char) :=
  (text.foldr (fun c (state : List Char × List (List Char)) =>
    if c = '&' then ([], state.1.takeWhile (· != ';') :: state.2) else (c :: state.1, state.2))
    ([], [])).2

/-- How much text the replacement of each entity takes, as far as it is known. -/
abbrev Sizes := List (List Char × Nat)

def Sizes.put (sizes : Sizes) (name : List Char) (size : Nat) : Sizes :=
  sizes.map fun entry => if entry.1 = name then (name, size) else entry

def byteCount (text : List Char) : Nat := text.foldl (fun total c => total + c.utf8Size) 0

/-- The size of the replacements in a text. -/
def Sizes.replaced (sizes : Sizes) (text : List Char) : Nat :=
  (mentions text).foldl (fun total name => total + (sizes.lookup name).getD 0) 0

/-- Sizes that take one more level of references into account. -/
def EntityTable.growSizes (table : EntityTable) (sizes : Sizes) : Sizes :=
  table.entries.foldl (fun sizes entry =>
    match entry.2 with
    | .internal text => sizes.put entry.1 (byteCount text + sizes.replaced text)
    | .closed => sizes) sizes

/-- Grows the sizes until they stay the same, for a number of rounds at most. -/
def EntityTable.settle (table : EntityTable) : Nat → Sizes → Sizes
  | 0, sizes => sizes
  | rounds + 1, sizes =>
    let grown := table.growSizes sizes
    if grown = sizes then sizes else table.settle rounds grown

def EntityTable.sizes (table : EntityTable) : Sizes :=
  table.settle table.entries.length (table.entries.map fun entry => (entry.1, 0))

/-- Replacements of this size are suspicious. -/
def suspiciousSize : Nat := 8 * 1024 * 1024

/-- A text may grow to this many times the size of its document before it is refused. -/
def allowedGrowth : Nat := 100

/-- The references in a text of a document of the given size make too much text. -/
def EntityTable.overflows (table : EntityTable) (documentSize : Nat) (text : List Char) : Bool :=
  if table.entries.isEmpty then false
  else
    let total := documentSize + table.sizes.replaced text
    decide (suspiciousSize ≤ total) && decide (allowedGrowth * documentSize < total)

end Artboard.Markup
