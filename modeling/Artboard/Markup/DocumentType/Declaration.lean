import Artboard.Markup.DocumentType.Token

/-!
# Declarations of a document type

The tokens of a document type form declarations of entities, attributes, elements
and notations. Elements and notations must be declared in the right form, but
nothing is kept of them.
-/
namespace Artboard.Markup.DocumentType

inductive EntityDefinition where
  | literal (text : List Char)
  | external

/-- The declaration of one attribute of an element. -/
structure AttributeDeclaration where
  name : String
  /-- The value is a list of words, not plain text. -/
  isTokenized : Bool
  default : Option (List Char)

inductive Declaration where
  | entity (name : String) (definition : EntityDefinition)
  | parameter (definition : EntityDefinition)
  | attributes (element : String) (declared : List AttributeDeclaration)
  /-- A place where outer declarations belong. -/
  | parameterReference

/-- A document type as it is written. -/
structure Written where
  /-- It refers to declarations outside the document. -/
  isExternal : Bool
  declarations : List Declaration

/-- A character of a public name. -/
def isPublicChar (c : Char) : Bool :=
  c.isAlphanum || " \n\r-'()+,./:=?;!*#@$_%".toList.contains c

/-- A system name, or a public name and a system name. -/
def externalName : List Token → Option (List Token)
  | .word .name "SYSTEM" :: .literal _ :: rest => some rest
  | .word .name "PUBLIC" :: .literal name :: .literal _ :: rest =>
    if name.all isPublicChar then some rest else none
  | _ => none

/-- The bracket at the end of a declaration. -/
def closed (tokens : List Token) : Option (List Token) :=
  match tokens with
  | .close :: rest => some rest
  | _ => none

def entityDefinition : List Token → Option (EntityDefinition × List Token)
  | .literal text :: rest => some (.literal text, rest)
  | tokens => (externalName tokens).map fun rest => (.external, rest)

/-- An outer entity that is not text names its notation. -/
def skipNotationName : EntityDefinition → List Token → List Token
  | .external, .word .name "NDATA" :: .word .name _ :: rest => rest
  | _, tokens => tokens

def entity : List Token → Option (Declaration × List Token)
  | .percent :: .word .name _ :: rest => do
    let (definition, rest) ← entityDefinition rest
    some (.parameter definition, ← closed rest)
  | .word .name name :: rest => do
    let (definition, rest) ← entityDefinition rest
    some (.entity name definition, ← closed (skipNotationName definition rest))
  | _ => none

/-- The words of a group after its opening, with a choice between them. -/
def wordGroup (allowed : List WordKind) : List Token → Option (List Token)
  | .word kind _ :: .connector .choice :: rest =>
    if allowed.contains kind then wordGroup allowed rest else none
  | .word kind _ :: .closeGroup none :: rest => if allowed.contains kind then some rest else none
  | _ => none

def tokenizedTypes : List String :=
  ["ID", "IDREF", "IDREFS", "ENTITY", "ENTITIES", "NMTOKEN", "NMTOKENS"]

/-- The type of an attribute, which is plain text or a list of words. -/
def attributeType : List Token → Option (Bool × List Token)
  | .word .name "CDATA" :: rest => some (false, rest)
  | .word .name "NOTATION" :: .openGroup :: rest =>
    (wordGroup [.name] rest).map fun rest => (true, rest)
  | .openGroup :: rest =>
    (wordGroup [.name, .prefixed, .other] rest).map fun rest => (true, rest)
  | .word .name type :: rest => if tokenizedTypes.contains type then some (true, rest) else none
  | _ => none

def attributeDefault : List Token → Option (Option (List Char) × List Token)
  | .keyword "IMPLIED" :: rest => some (none, rest)
  | .keyword "REQUIRED" :: rest => some (none, rest)
  | .keyword "FIXED" :: .literal text :: rest => some (some text, rest)
  | .literal text :: rest => some (some text, rest)
  | _ => none

/-- The attributes of an element up to the end of the declaration. -/
def attributeList : Nat → List Token → Option (List AttributeDeclaration × List Token)
  | 0, _ => none
  | _ + 1, .close :: rest => some ([], rest)
  | fuel + 1, .word kind name :: rest =>
    if kind = .other then none
    else do
      let (isTokenized, rest) ← attributeType rest
      let (default, rest) ← attributeDefault rest
      let (more, rest) ← attributeList fuel rest
      some ({ name, isTokenized, default } :: more, rest)
  | _ + 1, _ => none

def attributes : List Token → Option (Declaration × List Token)
  | .word kind element :: rest =>
    if kind = .other then none
    else (attributeList (rest.length + 1) rest).map fun (declared, rest) =>
      (.attributes element declared, rest)
  | _ => none

/-- The connectors of the open groups, the innermost first. -/
abbrev Levels := List (Option Connector)

/-- One level has one kind of connector. -/
def Levels.join (kind : Connector) : Levels → Option Levels
  | some other :: outer => if other = kind then some (some other :: outer) else none
  | none :: outer => some (some kind :: outer)
  | [] => none

mutual

/-- The rest after a group, from an item of it on. -/
def groupItem (levels : Levels) : List Token → Option (List Token)
  | .openGroup :: rest => groupItem (none :: levels) rest
  | .word kind _ :: rest => if kind = .other then none else afterItem levels rest
  | .counted _ :: rest => afterItem levels rest
  | _ => none

/-- The rest after a group, from behind an item of it. -/
def afterItem (levels : Levels) : List Token → Option (List Token)
  | .closeGroup _ :: rest =>
    match levels with
    | _ :: outer => if outer.isEmpty then some rest else afterItem outer rest
    | [] => none
  | .connector kind :: rest =>
    match levels.join kind with
    | some levels => groupItem levels rest
    | none => none
  | _ => none

end

/-- The names of elements that may stand between text. -/
def mixedNames : List Token → Option (List Token)
  | .connector .choice :: .word kind _ :: rest => if kind = .other then none else mixedNames rest
  | .closeGroup (some '*') :: rest => some rest
  | _ => none

def contentModel : List Token → Option (List Token)
  | .word .name "EMPTY" :: rest => some rest
  | .word .name "ANY" :: rest => some rest
  | .openGroup :: .keyword "PCDATA" :: .closeGroup none :: rest => some rest
  | .openGroup :: .keyword "PCDATA" :: rest => mixedNames rest
  | .openGroup :: rest => groupItem [none] rest
  | _ => none

def skipElement : List Token → Option (List Token)
  | .word kind _ :: rest => if kind = .other then none else (contentModel rest).bind closed
  | _ => none

def skipNotation : List Token → Option (List Token)
  | .word .name _ :: .word .name "PUBLIC" :: .literal name :: .close :: rest =>
    if name.all isPublicChar then some rest else none
  | .word .name _ :: rest => (externalName rest).bind closed
  | _ => none

/-- The declarations up to the end of the subset. -/
def declarations : Nat → List Token → Option (List Declaration × List Token)
  | 0, _ => none
  | fuel + 1, tokens =>
    match tokens with
    | .closeSubset :: rest => some ([], rest)
    | .remark :: rest => declarations fuel rest
    | .parameter :: rest =>
      (declarations fuel rest).map fun (more, rest) => (.parameterReference :: more, rest)
    | .declaration "ELEMENT" :: rest => (skipElement rest).bind (declarations fuel)
    | .declaration "NOTATION" :: rest => (skipNotation rest).bind (declarations fuel)
    | .declaration "ENTITY" :: rest => do
      let (first, rest) ← entity rest
      let (more, rest) ← declarations fuel rest
      some (first :: more, rest)
    | .declaration "ATTLIST" :: rest => do
      let (first, rest) ← attributes rest
      let (more, rest) ← declarations fuel rest
      some (first :: more, rest)
    | _ => none

/-- The tokens of a document type after its keyword. -/
def ofTokens? : List Token → Option Written
  | .word kind _ :: rest =>
    let outer := externalName rest
    if kind = .other then none
    else
      match outer.getD rest with
      | [.close] => some ⟨outer.isSome, []⟩
      | .openSubset :: rest =>
        match declarations (rest.length + 1) rest with
        | some (found, [.close]) => some ⟨outer.isSome, found⟩
        | _ => none
      | _ => none
  | _ => none

end Artboard.Markup.DocumentType
