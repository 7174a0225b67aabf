import Artboard.Text.Template.Spec

/-!
# Text templates

A template names fields between braces; a doubled brace stands for itself. A field
may ask for one character of its value, for its quoted form, and for a form that a
spec describes; the spec may have fields of its own. The fields are filled from
left to right, and the first field or brace that cannot be used stops the
expansion.
-/
namespace Artboard.Text

namespace Template

/-- A field taken apart. -/
structure Field where
  name : List Char
  conversion : Option Char
  spec : List Char
  /-- The spec has fields of its own. -/
  isNested : Bool

/-- The name of a field and the mark that ends it, from behind the opening brace. Between brackets
no mark ends it; `read` holds what is read already, last character first. -/
def splitName (inIndex : Bool) (read : List Char) :
    List Char → Except TemplateError (List Char × Char × List Char)
  | [] => .error .unclosedField
  | c :: rest =>
    if inIndex then splitName (c != ']') (c :: read) rest
    else if c = '\x7b' then .error .nestedBrace
    else if c = '\x7d' ∨ c = ':' ∨ c = '!' then .ok (read.reverse, c, rest)
    else splitName (c == '[') (c :: read) rest

/-- The spec of a field up to the brace that closes it. -/
def splitSpec (depth : Nat) (read : List Char) :
    List Char → Except TemplateError (List Char × List Char)
  | [] => .error .unclosedSpec
  | c :: rest =>
    if c = '\x7b' then splitSpec (depth + 1) (c :: read) rest
    else if c = '\x7d' then
      match depth with
      | 0 => .ok (read.reverse, rest)
      | depth + 1 => splitSpec depth (c :: read) rest
    else splitSpec depth (c :: read) rest

/-- A field and the rest, from behind its opening brace. -/
def splitField (text : List Char) : Except TemplateError (Field × List Char) := do
  let (name, mark, rest) ← splitName false [] text
  let withSpec (conversion : Option Char) (rest : List Char) :
      Except TemplateError (Field × List Char) :=
    (splitSpec 0 [] rest).map fun (spec, rest) =>
      ({ name, conversion, spec, isNested := spec.contains '\x7b' }, rest)
  if mark = '\x7d' then return ({ name, conversion := none, spec := [], isNested := false }, rest)
  else if mark = ':' then withSpec none rest
  else
    match rest with
    | [] => .error .missingConversion
    | [conversion] => withSpec (some conversion) []
    | conversion :: next :: rest =>
      if next = '\x7d' then
        return ({ name, conversion := some conversion, spec := [], isNested := false }, rest)
      else if next = ':' then withSpec (some conversion) rest
      else .error .unendedConversion

/-- The value of a name. A name that is a number, or no name, asks for a position. -/
def namedValue (value : String → Option String) (name : List Char) :
    Except TemplateError (List Char) := do
  if name.all isDecimalDigit then .error (.positionalField (← numberOf name))
  else
    match value (String.ofList name) with
    | some text => .ok text.toList
    | none => .error (.unknownField (String.ofList name))

/-- The part of a value that accessors behind its name ask for. -/
def access : Nat → List Char → List Char → Except TemplateError (List Char)
  | _, [], text => .ok text
  | 0, _, text => .ok text
  | fuel + 1, '[' :: rest, text => do
    let index := rest.takeWhile (· != ']')
    let after := rest.drop index.length
    if after.isEmpty then .error .unclosedIndex
    else if index.isEmpty then .error .emptyAttribute
    else if index.all isDecimalDigit then
      match text[← numberOf index]? with
      | some c => access fuel (after.drop 1) [c]
      | none => .error .missingCharacter
    else .error .namedCharacter
  | _ + 1, '.' :: rest, _ =>
    if (rest.takeWhile fun c => c != '.' && c != '[').isEmpty then .error .emptyAttribute
    else .error .unknownAttribute
  | _ + 1, _ :: _, _ => .error .strayAfterIndex

/-- The value of a field before its conversion. -/
def fieldValue (value : String → Option String) (name : List Char) :
    Except TemplateError (List Char) := do
  let first := name.takeWhile fun c => c != '.' && c != '['
  access name.length (name.drop first.length) (← namedValue value first)

def convert (conversion : Option Char) (text : List Char) : Except TemplateError (List Char) :=
  match conversion with
  | none => .ok text
  | some 's' => .ok text
  | some 'r' => .ok (quoted text)
  | some 'a' => .ok (quotedPlain text)
  | some other => .error (.unknownConversion other)

/-- Fills a field; `expandSpec` fills the fields of its spec. -/
def fillField (value : String → Option String)
    (expandSpec : List Char → Except TemplateError (List Char)) (field : Field) :
    Except TemplateError (List Char) := do
  let text ← convert field.conversion (← fieldValue value field.name)
  let spec ← if field.isNested then expandSpec field.spec else .ok field.spec
  applySpec spec text

/-- Expands a text whose fields have specs that `expandSpec` expands. -/
def expandWith (value : String → Option String)
    (expandSpec : List Char → Except TemplateError (List Char)) :
    Nat → List Char → Except TemplateError (List Char)
  | 0, _ => .ok []
  | fuel + 1, text =>
    match text with
    | [] => .ok []
    | '\x7b' :: '\x7b' :: rest => (expandWith value expandSpec fuel rest).map ('\x7b' :: ·)
    | '\x7d' :: '\x7d' :: rest => (expandWith value expandSpec fuel rest).map ('\x7d' :: ·)
    | ['\x7b'] => .error (.loneBrace '\x7b')
    | '\x7d' :: _ => .error (.loneBrace '\x7d')
    | '\x7b' :: rest => do
      let (field, rest) ← splitField rest
      let found ← fillField value expandSpec field
      let more ← expandWith value expandSpec fuel rest
      return found ++ more
    | c :: rest => (expandWith value expandSpec fuel rest).map (c :: ·)

/-- Expands a text with specs in specs up to a depth. -/
def expandTo (value : String → Option String) : Nat → List Char → Except TemplateError (List Char)
  | 0, _ => .error .nestedTooDeep
  | depth + 1, text => expandWith value (expandTo value depth) (text.length + 1) text

end Template

/-- Fills the fields of a template. -/
def expandTemplate (value : String → Option String) (template : String) :
    Except TemplateError String :=
  (Template.expandTo value 2 template.toList).map String.ofList

end Artboard.Text
