import Artboard.Markup.DocumentType.Declaration
import Artboard.Markup.Entities

/-!
# Document types

What a document type means for the document: the entities that may be referred to,
and the attributes that are lists of words or have a default value. The first
declaration of a name holds. After a reference to declarations that are kept
elsewhere the later ones do not count, unless the document stands alone.
-/
namespace Artboard.Markup

/-- What is declared about an attribute of the elements with a name. -/
structure AttributeRule where
  element : PrefixedName
  name : PrefixedName
  isTokenized : Bool
  default : Option (List Char)

structure DocumentType where
  entities : EntityTable
  rules : List AttributeRule

namespace DocumentType

def empty : DocumentType := ⟨.empty, []⟩

/-- The declarations read so far. -/
structure Reading where
  type : DocumentType
  /-- The document needs no declarations from elsewhere. -/
  standalone : Bool
  /-- Later declarations do not count. -/
  ignoring : Bool
  documentSize : Nat

/-- The entity of a definition; a reference in its text must be well formed. -/
def entityOf : EntityDefinition → Option Entity
  | .literal text => (declaredText (text.length + 1) text).map .internal
  | .external => some .closed

/-- The first declaration of a name holds, and no declaration changes a predefined name. -/
def declareEntity (type : DocumentType) (name : List Char) (entity : Entity) : DocumentType :=
  if (predefinedChars.lookup name).isSome || (type.entities.find? name).isSome then type
  else
    { type with
      entities := { type.entities with entries := type.entities.entries ++ [(name, entity)] } }

/-- The value of a default, with the entities declared before it. -/
def defaultValue (reading : Reading) (declared : AttributeDeclaration) :
    Option (Option (List Char)) :=
  let entities := reading.type.entities
  match declared.default with
  | none => some none
  | some text =>
    if entities.overflows reading.documentSize text then none
    else
      (entities.value text).map fun value =>
        some (if declared.isTokenized then tokenized value else value)

def declareAttribute (element : PrefixedName) (reading : Reading)
    (declared : AttributeDeclaration) : Option Reading := do
  let default ← defaultValue reading declared
  let name := PrefixedName.ofWritten declared.name.toList
  let type := reading.type
  let known := type.rules.any fun rule => rule.element == element && rule.name == name
  if known then some reading
  else
    let rule : AttributeRule := { element, name, isTokenized := declared.isTokenized, default }
    some { reading with type := { type with rules := type.rules ++ [rule] } }

/-- Declarations kept elsewhere may be missing. -/
def missOuter (reading : Reading) : Reading :=
  let type := reading.type
  { reading with
    type := { type with entities := { type.entities with incomplete := !reading.standalone } } }

def declare (reading : Reading) (declaration : Declaration) : Option Reading :=
  if reading.ignoring then some reading
  else
    match declaration with
    | .parameterReference => some { missOuter reading with ignoring := !reading.standalone }
    | .parameter definition => (entityOf definition).map fun _ => reading
    | .entity name definition =>
      (entityOf definition).map fun entity =>
        { reading with type := declareEntity reading.type name.toList entity }
    | .attributes element declared =>
      declared.foldlM (declareAttribute (.ofWritten element.toList)) reading

/-- The meaning of a written document type. -/
def ofWritten? (standalone : Bool) (documentSize : Nat) (written : Written) :
    Option DocumentType :=
  let start : Reading := { type := empty, standalone, ignoring := false, documentSize }
  let start := if written.isExternal then missOuter start else start
  (written.declarations.foldlM declare start).map (·.type)

/-- A document type from behind its keyword. -/
def read (standalone : Bool) (documentSize : Nat) (text : Rest) : Option (DocumentType × Rest) := do
  let (found, rest) ← tokens (text.length + 1) false text
  let written ← ofTokens? found
  let type ← ofWritten? standalone documentSize written
  some (type, rest)

end DocumentType

end Artboard.Markup
