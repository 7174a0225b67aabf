import Artboard.Markup.Element
import Artboard.Text.Case
import Artboard.Text.Entity

/-!
# Writing markup

Void elements have no end tag, all others have one. Text is escaped except in
scripts and styles. Names in a namespace get a prefix that is declared on the
outermost element, numbered in document order.
-/
namespace Artboard.Markup

def voidElements : List String :=
  ["area", "base", "basefont", "br", "col", "embed", "frame", "hr", "img", "input", "isindex",
   "link", "meta", "param", "source", "track", "wbr"]

def rawTextElements : List String := ["script", "style"]

/-- Namespaces with the prefixes that stand for them. -/
abbrev Prefixes := List (String × String)

def xmlSpace : String := "http://www.w3.org/XML/1998/namespace"

/-- Namespaces with a prefix of their own. -/
def knownPrefixes : Prefixes :=
  [(xmlSpace, "xml"), ("http://www.w3.org/1999/xhtml", "html"),
   ("http://www.w3.org/1999/02/22-rdf-syntax-ns#", "rdf"),
   ("http://schemas.xmlsoap.org/wsdl/", "wsdl"), ("http://www.w3.org/2001/XMLSchema", "xs"),
   ("http://www.w3.org/2001/XMLSchema-instance", "xsi"),
   ("http://purl.org/dc/elements/1.1/", "dc")]

/-- Gives the namespace of a name a prefix, unless it has one. -/
def addPrefix (prefixes : Prefixes) (name : Name) : Prefixes :=
  if name.space.isEmpty || name.space == xmlSpace || (prefixes.lookup name.space).isSome then
    prefixes
  else
    match knownPrefixes.lookup name.space with
    | some known => prefixes ++ [(name.space, known)]
    | none => prefixes ++ [(name.space, s!"ns{prefixes.length}")]

def Head.names (head : Head) : List Name := head.name :: head.attributes.map Prod.fst

mutual

/-- The names of a tree in document order. -/
def treeNames : Element → List Name
  | .mk head children => head.names ++ forestNames children

def forestNames : List Element → List Name
  | [] => []
  | element :: rest => treeNames element ++ forestNames rest

end

def prefixesOf (element : Element) : Prefixes := (treeNames element).foldl addPrefix []

def writtenName (prefixes : Prefixes) (name : Name) : List Char :=
  if name.space.isEmpty then name.base.toList
  else
    let start := ((prefixes ++ knownPrefixes).lookup name.space).getD ""
    start.toList ++ ':' :: name.base.toList

def writeAttribute (prefixes : Prefixes) (entry : Attribute) : List Char :=
  ' ' :: writtenName prefixes entry.1 ++ "=\"".toList ++
    Text.escapeAttribute entry.2.toList ++ ['"']

def escapeSpaceChar : Char → List Char
  | '<' => "&lt;".toList
  | '\r' => "&#13;".toList
  | '\n' => "&#10;".toList
  | '\t' => "&#09;".toList
  | c => Text.escapeAttributeChar c

/-- The declarations of the prefixes, ordered by prefix. -/
def declarePrefixes (prefixes : Prefixes) : List Char :=
  (prefixes.mergeSort fun first second => decide (first.2 ≤ second.2)).flatMap fun entry =>
    " xmlns:".toList ++ entry.2.toList ++ "=\"".toList ++ entry.1.toList.flatMap escapeSpaceChar ++
      ['"']

/-- The text of an element as it is written: escaped, except in scripts and styles. -/
def writeText (kind : String) (text : List Char) : List Char :=
  if rawTextElements.contains kind then text else Text.escapeContent text

/-- The name that says whether an element is void or holds raw text. -/
def kindOf (name : List Char) : String := String.ofList (Text.lower name)

/-- The start tag and the text behind it; `declared` stands before the attributes. -/
def writeStart (prefixes : Prefixes) (declared : List Char) (head : Head) : List Char :=
  let name := writtenName prefixes head.name
  '<' :: (name ++ (declared ++ (head.attributes.flatMap (writeAttribute prefixes) ++
    ('>' :: writeText (kindOf name) head.text))))

/-- The end tag, unless the element is void, and the tail. -/
def writeEnd (prefixes : Prefixes) (head : Head) : List Char :=
  let name := writtenName prefixes head.name
  let tail := Text.escapeContent head.tail
  if voidElements.contains (kindOf name) then tail else "</".toList ++ (name ++ ('>' :: tail))

mutual

/-- An element and its tail, in front of what follows. -/
def writeElement (prefixes : Prefixes) (declared : List Char) : Element → List Char → List Char
  | .mk head children, rest =>
    writeStart prefixes declared head ++
      writeElements prefixes children (writeEnd prefixes head ++ rest)

def writeElements (prefixes : Prefixes) : List Element → List Char → List Char
  | [], rest => rest
  | element :: more, rest =>
    writeElement prefixes [] element (writeElements prefixes more rest)

end

mutual

/-- What follows is written behind the element as it is. -/
theorem writeElement_append (prefixes : Prefixes) (declared : List Char) (element : Element)
    (first second : List Char) :
    writeElement prefixes declared element (first ++ second) =
      writeElement prefixes declared element first ++ second := by
  match element with
  | .mk head children =>
    simp only [writeElement, List.append_assoc]
    rw [← List.append_assoc, writeElements_append]

theorem writeElements_append (prefixes : Prefixes) (elements : List Element)
    (first second : List Char) :
    writeElements prefixes elements (first ++ second) =
      writeElements prefixes elements first ++ second := by
  match elements with
  | [] => rfl
  | element :: more =>
    simp only [writeElements]
    rw [writeElements_append, writeElement_append]

end

namespace Element

/-- The markup of a tree and its tail. -/
def html (element : Element) : List Char :=
  let prefixes := prefixesOf element
  writeElement prefixes (declarePrefixes prefixes) element []

end Element

end Artboard.Markup
