import Artboard.Classes.Size
import Artboard.Digest.Sha1

/-!
# Shared classes

The declarations of certain properties on a box are its pattern. A pattern that
occurs on enough boxes becomes a class, named by a digest of the pattern, which
does not depend on the order of the declarations.
-/
namespace Artboard.Classes

/-- The properties that make up a pattern. -/
def sharedProperties : List String :=
  ["font-family", "font-size", "font-weight", "line-height", "letter-spacing", "text-transform",
   "text-decoration", "color", "opacity", "background", "background-color", "border",
   "border-radius", "box-shadow", "filter", "backdrop-filter", "-webkit-backdrop-filter"]

def sharedName (key : String) : String :=
  "sc-" ++ String.ofList ((Digest.sha1Hex key.toUTF8.toList).take 8)

structure SharedClass where
  name : String
  key : String
  declarations : Css.Declarations
  usage : Nat

structure SharedTable where
  classes : List SharedClass
  scope : String

def pattern (bag : Css.Declarations) : Css.Declarations := bag.subset sharedProperties

/-- The patterns of boxes, without the empty ones. -/
def patterns (boxes : List Css.Declarations) : List Css.Declarations :=
  (boxes.map pattern).filter fun found => !found.stableKey.isEmpty

def SharedClass.rule (scope : String) (shared : SharedClass) : String :=
  Css.rule (scope ++ " ." ++ shared.name) (.ofList shared.declarations.sorted)

namespace SharedTable

/-- Adds one occurrence of a pattern. -/
def count (found : Css.Declarations) : List SharedClass → List SharedClass
  | [] => [⟨sharedName found.stableKey, found.stableKey, found, 1⟩]
  | first :: rest =>
    if first.key = found.stableKey then { first with usage := first.usage + 1 } :: rest
    else first :: count found rest

/-- The patterns that occur at least `threshold` times. -/
def build (threshold : Int) (scope : String) (boxes : List Css.Declarations) : SharedTable :=
  let counted := (patterns boxes).foldl (fun classes found => count found classes) []
  { classes := counted.filter fun shared => decide (threshold ≤ shared.usage), scope }

def empty (scope : String) : SharedTable := ⟨[], scope⟩

/-- The class of a box's pattern, and the declarations that it leaves. -/
def apply (table : SharedTable) (bag : Css.Declarations) : Option String × Css.Declarations :=
  let key := (pattern bag).stableKey
  if key.isEmpty then (none, bag)
  else
    match table.classes.find? fun shared => shared.key == key with
    | some shared => (some shared.name, bag.without sharedProperties)
    | none => (none, bag)

def css (table : SharedTable) : String :=
  String.intercalate "\n" (table.classes.map (SharedClass.rule table.scope))

def size (table : SharedTable) : Nat := table.classes.length

end SharedTable

end Artboard.Classes
