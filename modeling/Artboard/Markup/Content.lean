import Artboard.Markup.Tag

/-!
# Content of elements

Content is text and elements. Comments and instructions leave no trace, so that
the text around them is one; marked sections are text. A reference to an entity
stands for the content of its text, whose elements start and end in it.
-/
namespace Artboard.Markup

/-- Text and the elements after it. -/
structure Fragment where
  text : List Char
  elements : List Element

/-- Adds text behind the last of some elements. -/
def appendTailToLast (text : List Char) : List Element → List Element
  | [] => []
  | [element] => [element.appendTail text]
  | element :: rest => element :: appendTailToLast text rest

namespace Fragment

def empty : Fragment := ⟨[], []⟩

def addText (text : List Char) (content : Fragment) : Fragment :=
  { content with text := text ++ content.text }

/-- The element comes first, and the text that followed it becomes its tail. -/
def addElement (element : Element) (content : Fragment) : Fragment :=
  ⟨[], element.withTail content.text :: content.elements⟩

/-- One fragment after another; the text between them is one. -/
def append (first second : Fragment) : Fragment :=
  if first.elements.isEmpty then second.addText first.text
  else ⟨first.text, appendTailToLast second.text first.elements ++ second.elements⟩

end Fragment

/-- What content is read with: its document type and the namespaces in scope. -/
structure Context where
  type : DocumentType
  scope : Scope

/-- The context of the text of an entity. -/
def Context.inside (context : Context) (entity : List Char) : Context :=
  { context with type := { context.type with entities := context.type.entities.close entity } }

/-- The text of a marked section, from behind its opening; `read` holds what is before, last
character first. -/
def sectionText (read : List Char) : Rest → Option (List Char × Rest)
  | ']' :: ']' :: '>' :: rest => some (read.reverse, rest)
  | c :: rest => if isDocumentChar c then sectionText (c :: read) rest else none
  | [] => none

/-- A character that neither starts markup nor may be part of the end of a marked section. -/
def isPlainChar (c : Char) : Bool := isDocumentChar c && c != '<' && c != '&' && c != ']'

mutual

/-- Content up to the next end tag, which is left in place, or up to the end of the text. -/
def content (context : Context) : Nat → Rest → Option (Fragment × Rest)
  | 0, _ => none
  | fuel + 1, text =>
    match text with
    | [] => some (.empty, [])
    | '<' :: '/' :: _ => some (.empty, text)
    | '<' :: '!' :: '[' :: rest => do
      let rest ← after? "CDATA[" rest
      let (found, rest) ← sectionText [] rest
      let (more, rest) ← content context fuel rest
      some (more.addText found, rest)
    | '<' :: '!' :: _ => (skipRemark text).bind (content context fuel)
    | '<' :: '?' :: _ => (skipRemark text).bind (content context fuel)
    | '<' :: rest => do
      let (first, rest) ← element context fuel rest
      let (more, rest) ← content context fuel rest
      some (more.addElement first, rest)
    | '&' :: rest => do
      let (reference, rest) ← reference? rest
      let found ← referenceContent context fuel reference
      let (more, rest) ← content context fuel rest
      some (found.append more, rest)
    | ']' :: ']' :: '>' :: _ => none
    | ']' :: rest => do
      let (more, rest) ← content context fuel rest
      some (more.addText [']'], rest)
    | _ => do
      let plain := text.takeWhile isPlainChar
      if plain.isEmpty then none
      let (more, rest) ← content context fuel (text.drop plain.length)
      some (more.addText plain, rest)

/-- What a reference stands for. -/
def referenceContent (context : Context) : Nat → Reference → Option Fragment
  | 0, _ => none
  | _ + 1, .number c => some ⟨[c], []⟩
  | fuel + 1, .name name =>
    match predefinedChars.lookup name with
    | some c => some ⟨[c], []⟩
    | none => do
      let text ← context.type.entities.text? name
      match content (context.inside name) fuel text with
      | some (found, []) => some found
      | _ => none

/-- An element from behind its opening bracket. -/
def element (context : Context) : Nat → Rest → Option (Element × Rest)
  | 0, _ => none
  | fuel + 1, text => do
    let (tag, rest) ← startTag context.type context.scope fuel text
    let head : Head := { name := tag.name, attributes := tag.attributes, text := [], tail := [] }
    if tag.ending = .closed then some (.mk head [], rest)
    else
      let (inner, rest) ← content { context with scope := tag.scope } fuel rest
      let rest ← after? "</" rest
      let rest ← endTag tag.written rest
      some (.mk { head with text := inner.text } inner.elements, rest)

end

end Artboard.Markup
