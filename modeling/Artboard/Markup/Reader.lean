import Artboard.Markup.Content

/-!
# Reading documents

A document is one element with comments, instructions and a document type around
it. Every line break in it is one line feed. It may say at its start that it stands
alone, that is without declarations from elsewhere.
-/
namespace Artboard.Markup

/-- Every line break becomes one line feed; a carriage return in front of a line feed is part of
its line break. -/
def lineFeeds (text : List Char) : List Char :=
  (text.zip (text.drop 1 ++ [' '])).filterMap fun (c, next) =>
    if c = '\r' then if next = '\n' then none else some '\n' else some c

/-- Comments, instructions and blanks between the parts of a document. -/
def skipMisc : Nat → Rest → Option Rest
  | 0, text => some text
  | fuel + 1, text =>
    match skipGaps text with
    | '<' :: '!' :: '-' :: '-' :: rest => (skipComment rest).bind (skipMisc fuel)
    | '<' :: '?' :: rest => (skipInstruction rest).bind (skipMisc fuel)
    | rest => some rest

def isDeclarationChar (c : Char) : Bool :=
  c.isAlphanum || c = '.' || c = '_' || c = '-'

/-- A quoted value in the declaration of a document. -/
def declarationValue (text : Rest) : Option (List Char × Rest) :=
  match skipGaps text with
  | '=' :: rest =>
    match skipGaps rest with
    | quote :: rest =>
      let value := rest.takeWhile isDeclarationChar
      match rest.drop value.length with
      | c :: rest => if c = quote ∧ (quote = '"' ∨ quote = '\'') then some (value, rest) else none
      | [] => none
    | [] => none
  | _ => none

/-- A named value in the declaration, after a blank; `none` inside when it is not there. -/
def declarationItem (name : String) (text : Rest) : Option (Option (List Char) × Rest) :=
  match after? name (skipGaps text) with
  | some rest =>
    if startsWithGap text then (declarationValue rest).map fun (value, rest) => (some value, rest)
    else none
  | none => some (none, text)

/-- The declaration of a document, from behind its opening: whether the document stands alone, and
the rest. -/
def readDeclaration (text : Rest) : Option (Bool × Rest) := do
  let (version, rest) ← declarationItem "version" text
  if version.isNone then none
  let (encoding, rest) ← declarationItem "encoding" rest
  let (standalone, rest) ← declarationItem "standalone" rest
  let named :=
    match encoding with
    | some (c :: _) => c.isAlpha
    | some [] => false
    | none => true
  let decided :=
    match standalone with
    | some value => value == "yes".toList || value == "no".toList
    | none => true
  if named && decided then
    (after? "?>" (skipGaps rest)).map fun rest => (standalone == some "yes".toList, rest)
  else none

/-- The declaration that a document may start with. -/
def skipDeclaration (text : Rest) : Option (Bool × Rest) :=
  match after? "<?xml" text with
  | some (c :: rest) =>
    if isGap c || c = '?' then readDeclaration (c :: rest) else some (false, text)
  | _ => some (false, text)

/-- The document type that stands before the element of a document. -/
def readProlog (text : Rest) : Option (DocumentType × Rest) := do
  let (standalone, rest) ← skipDeclaration text
  let rest ← skipMisc rest.length rest
  match after? "<!DOCTYPE" rest with
  | some rest =>
    if startsWithGap rest then
      let (type, rest) ← DocumentType.read standalone (byteCount text) rest
      let rest ← skipMisc rest.length rest
      some (type, rest)
    else none
  | none => some (.empty, rest)

/-- The element of a document, if the text is well formed. A byte order mark may come first. -/
def readDocument (text : List Char) : Option Element := do
  let text :=
    lineFeeds <| match text with
      | '\ufeff' :: rest => rest
      | text => text
  let (type, rest) ← readProlog text
  if type.entities.overflows (byteCount text) rest then none
  let rest ← after? "<" rest
  let steps := 2 * (rest.length + type.entities.weight) + 4
  let (found, rest) ← element { type, scope := startScope } steps rest
  let rest ← skipMisc rest.length rest
  if rest.isEmpty then some found else none

end Artboard.Markup
