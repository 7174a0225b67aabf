import Artboard.Markup.DocumentType.Basic
import Artboard.Markup.Namespace

/-!
# Tags

A start tag has a name and attributes in order. The document type may add
attributes with default values at their end, and it tells which values are lists
of words.
-/
namespace Artboard.Markup

/-- An attribute with its value as it is written. -/
abbrev WrittenAttribute := PrefixedName × List Char

/-- One attribute with the text between its quotes. -/
def readAttribute (text : Rest) : Option (WrittenAttribute × Rest) := do
  let (name, rest) ← prefixedName text
  match skipGaps rest with
  | '=' :: rest =>
    match skipGaps rest with
    | quote :: rest =>
      let value := rest.takeWhile (· != quote)
      match rest.drop value.length with
      | _ :: rest =>
        if (quote = '"' ∨ quote = '\'') ∧ value.all isDocumentChar then some ((name, value), rest)
        else none
      | [] => none
    | [] => none
  | _ => none

/-- How a start tag ends. -/
inductive TagEnd where
  | opened
  | closed
deriving DecidableEq

/-- The attributes of a start tag up to its end. -/
def attributes : Nat → Rest → Option (List WrittenAttribute × TagEnd × Rest)
  | 0, _ => none
  | fuel + 1, text =>
    match skipGaps text with
    | '>' :: rest => some ([], .opened, rest)
    | '/' :: '>' :: rest => some ([], .closed, rest)
    | spaced =>
      if startsWithGap text then do
        let (first, rest) ← readAttribute spaced
        let (more, ending, rest) ← attributes fuel rest
        some (first :: more, ending, rest)
      else none

namespace DocumentType

/-- The value of an attribute of an element. -/
def value (type : DocumentType) (element : PrefixedName) (entry : WrittenAttribute) :
    Option (List Char) :=
  let rule := type.rules.find? fun rule => rule.element == element && rule.name == entry.1
  (type.entities.value entry.2).map fun value =>
    if (rule.map AttributeRule.isTokenized).getD false then tokenized value else value

/-- The attributes of an element that are not written but have a default value. -/
def defaults (type : DocumentType) (element : PrefixedName) (written : List WrittenAttribute) :
    List (PrefixedName × List Char) :=
  type.rules.filterMap fun rule =>
    if rule.element == element && !(written.any fun entry => entry.1 == rule.name) then
      rule.default.map fun value => (rule.name, value)
    else none

/-- The attributes of an element with their values. -/
def complete (type : DocumentType) (element : PrefixedName) (written : List WrittenAttribute) :
    Option (List (PrefixedName × List Char)) :=
  (written.mapM fun entry => (type.value element entry).map fun value => (entry.1, value)).map
    (· ++ type.defaults element written)

end DocumentType

/-- A start tag with everything resolved. -/
structure StartTag where
  written : PrefixedName
  name : Name
  attributes : List Attribute
  scope : Scope
  ending : TagEnd

/-- A start tag from behind its opening bracket. -/
def startTag (type : DocumentType) (scope : Scope) (fuel : Nat) (text : Rest) :
    Option (StartTag × Rest) := do
  let (written, rest) ← prefixedName text
  let (found, ending, rest) ← attributes fuel rest
  let found ← type.complete written found
  let scope ← extendScope scope found
  let name ← resolveElement scope written
  let attributes ← resolveAttributes scope found
  some ({ written, name, attributes, scope, ending }, rest)

/-- The rest after the end tag of an element, from behind its opening. -/
def endTag (written : PrefixedName) (text : Rest) : Option Rest :=
  let name := written.written
  if name.isPrefixOf text then
    match skipGaps (text.drop name.length) with
    | '>' :: rest => some rest
    | _ => none
  else none

end Artboard.Markup
