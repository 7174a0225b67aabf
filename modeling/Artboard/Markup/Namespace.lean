import Artboard.Markup.Html
import Artboard.Markup.Lexical

/-!
# Namespaces

Attributes of an element declare the namespaces that the names in it are resolved
in. Two namespaces are reserved. A name of an attribute without a prefix is in no
namespace, and no two attributes of an element have the same resolved name.
-/
namespace Artboard.Markup

/-- The namespaces in scope by prefix, the nearest first; the default one has an empty prefix. -/
abbrev Scope := List (List Char × String)

/-- The namespaces that need no declaration. -/
def startScope : Scope := [("xml".toList, xmlSpace)]

def xmlnsSpace : String := "http://www.w3.org/2000/xmlns/"

/-- A namespace that a document may name: not one of the reserved two, and without the bracket
that closes a namespace in the written form of a name. -/
def isOpenSpace (space : List Char) : Bool :=
  space != xmlSpace.toList && space != xmlnsSpace.toList && !space.contains '}'

/-- The namespace that an attribute declares; the outer option tells whether it declares one, the
inner one whether the declaration is allowed. -/
def declaredSpace (entry : PrefixedName × List Char) : Option (Option (List Char × String)) :=
  let (name, space) := entry
  let declared := (name.base, String.ofList space)
  if name.start.isEmpty && name.base == "xmlns".toList then
    some (if isOpenSpace space then some ([], declared.2) else none)
  else if name.start == "xmlns".toList then
    some (
      if name.base = "xml".toList then
        if declared.2 = xmlSpace then some declared else none
      else if name.base = "xmlns".toList ∨ space.isEmpty ∨ isOpenSpace space = false then none
      else some declared)
  else none

/-- The scope inside an element with the given attributes. -/
def extendScope (scope : Scope) (attributes : List (PrefixedName × List Char)) : Option Scope :=
  (attributes.filterMap declaredSpace).foldlM (fun scope declared => declared.map (· :: scope)) scope

/-- A name of an element: without a prefix it is in the default namespace. -/
def resolveElement (scope : Scope) (name : PrefixedName) : Option Name :=
  match scope.lookup name.start with
  | some space => some ⟨space, String.ofList name.base⟩
  | none => if name.start.isEmpty then some ⟨"", String.ofList name.base⟩ else none

/-- A name of an attribute: without a prefix it is in no namespace. -/
def resolveAttribute (scope : Scope) (name : PrefixedName) : Option Name :=
  if name.start.isEmpty then some ⟨"", String.ofList name.base⟩ else resolveElement scope name

def isDeclaration (entry : PrefixedName × List Char) : Bool := (declaredSpace entry).isSome

/-- The attributes of an element; no name occurs twice, as written or resolved. -/
def resolveAttributes (scope : Scope) (attributes : List (PrefixedName × List Char)) :
    Option (List Attribute) := do
  if ¬ (attributes.map Prod.fst).Nodup then none
  let resolved ← (attributes.filter fun entry => !isDeclaration entry).mapM fun entry =>
    (resolveAttribute scope entry.1).map fun name => (name, String.ofList entry.2)
  if (resolved.map Prod.fst).Nodup then some resolved else none

end Artboard.Markup
