import Artboard.Text.Blank

/-!
# Elements

An element has a name, attributes in order, text before its first child and,
as its tail, the text that follows it in its parent.
-/
namespace Artboard.Markup

/-- A name in a namespace; plain names have none. -/
structure Name where
  space : String
  base : String
deriving DecidableEq, Repr

def Name.plain (name : String) : Name := ⟨"", name⟩

abbrev Attribute := Name × String

/-- An element without its children. -/
structure Head where
  name : Name
  attributes : List Attribute
  text : List Char
  tail : List Char

inductive Element where
  | mk (head : Head) (children : List Element)

/-- Replaces the value of an attribute in place; a new attribute goes to the end. -/
def setAttribute (name : Name) (value : String) : List Attribute → List Attribute
  | [] => [(name, value)]
  | (other, old) :: rest =>
    if other = name then (name, value) :: rest else (other, old) :: setAttribute name value rest

def dropAttribute (name : Name) (attributes : List Attribute) : List Attribute :=
  attributes.filter fun entry => !(entry.1 == name)

namespace Head

def attribute? (head : Head) (name : String) : Option String :=
  head.attributes.lookup (Name.plain name)

/-- The words of the class attribute. -/
def classes (head : Head) : List (List Char) :=
  match head.attribute? "class" with
  | some value => Text.words value.toList
  | none => []

end Head

namespace Element

def head : Element → Head
  | mk head _ => head

def children : Element → List Element
  | mk _ children => children

/-- An element with plain attributes and no text. -/
def plain (name : String) (attributes : List (String × String)) (children : List Element) :
    Element :=
  .mk { name := .plain name, attributes := attributes.map fun entry => (.plain entry.1, entry.2),
        text := [], tail := [] } children

def withTail (tail : List Char) : Element → Element
  | mk head children => mk { head with tail } children

def appendTail (tail : List Char) : Element → Element
  | mk head children => mk { head with tail := head.tail ++ tail } children

mutual

/-- Changes the head of every element of a tree. -/
def mapHeads (change : Head → Head) : Element → Element
  | mk head children => mk (change head) (mapHeadsAll change children)

def mapHeadsAll (change : Head → Head) : List Element → List Element
  | [] => []
  | element :: rest => mapHeads change element :: mapHeadsAll change rest

end

end Element

end Artboard.Markup
