/-!
# Declaration bags

A bag holds one value for each property name. Names keep the place of their
first declaration, and a later declaration only changes the value. Two bags with
the same declarations in another order have the same key.
-/
namespace Artboard.Css

abbrev Declaration := String × String

/-- Replaces the value of a declared name in place; a new name goes to the end. -/
def declare (name value : String) : List Declaration → List Declaration
  | [] => [(name, value)]
  | (other, old) :: rest =>
    if other = name then (name, value) :: rest else (other, old) :: declare name value rest

def names (declarations : List Declaration) : List String := declarations.map Prod.fst

theorem mem_names_declare {name other value : String} {declarations : List Declaration} :
    other ∈ names (declare name value declarations) ↔ other = name ∨ other ∈ names declarations := by
  induction declarations with
  | nil => simp [declare, names]
  | cons first rest ih =>
    obtain ⟨key, old⟩ := first
    simp only [names, List.map_cons, List.mem_cons] at ih ⊢
    by_cases same : key = name
    · simp [declare, same]
    · simp only [declare, same, if_false, List.map_cons, List.mem_cons, ih]
      grind

theorem nodup_names_declare {name value : String} {declarations : List Declaration}
    (distinct : (names declarations).Nodup) :
    (names (declare name value declarations)).Nodup := by
  induction declarations with
  | nil => simp [declare, names]
  | cons first rest ih =>
    obtain ⟨key, old⟩ := first
    simp only [names, List.map_cons, List.nodup_cons] at distinct ih
    by_cases same : key = name
    · subst same
      simpa [declare, names] using distinct
    · simp only [declare, same, if_false, names, List.map_cons, List.nodup_cons]
      refine ⟨fun member => ?_, ih distinct.2⟩
      have found := mem_names_declare.mp member
      rcases found with equal | member
      · exact same equal
      · exact distinct.1 member

theorem lookup_declare {name value other : String} {declarations : List Declaration} :
    (declare name value declarations).lookup other =
      if other = name then some value else declarations.lookup other := by
  induction declarations with
  | nil =>
    by_cases same : other = name
    · simp [declare, same]
    · have differ : (other == name) = false := by simp [same]
      simp [declare, List.lookup_cons, same, differ]
  | cons first rest ih =>
    obtain ⟨key, old⟩ := first
    by_cases same : other = key
    · subst same
      by_cases declared : other = name <;> simp [declare, declared]
    · have differ : (other == key) = false := by simp [same]
      by_cases declared : key = name
      · subst declared
        simp [declare, List.lookup_cons, same, differ]
      · simp [declare, List.lookup_cons, declared, differ, ih]

/-- Declarations with distinct names, in order. -/
structure Declarations where
  toList : List Declaration
  distinct : (names toList).Nodup

namespace Declarations

def empty : Declarations := ⟨[], by simp [names]⟩

instance : Inhabited Declarations := ⟨empty⟩

instance : EmptyCollection Declarations := ⟨empty⟩

def set (bag : Declarations) (name value : String) : Declarations :=
  ⟨declare name value bag.toList, nodup_names_declare bag.distinct⟩

/-- Sets the declarations of a list one after the other. -/
def setAll (bag : Declarations) (declarations : List Declaration) : Declarations :=
  declarations.foldl (fun bag declaration => bag.set declaration.1 declaration.2) bag

def ofList (declarations : List Declaration) : Declarations := empty.setAll declarations

/-- Sets every declaration of the other bag. -/
def update (bag other : Declarations) : Declarations := bag.setAll other.toList

def get? (bag : Declarations) (name : String) : Option String := bag.toList.lookup name

/-- A declared name has the new value, and every other name keeps its own. -/
theorem get?_set {bag : Declarations} {name value other : String} :
    (bag.set name value).get? other = if other = name then some value else bag.get? other :=
  lookup_declare

def contains (bag : Declarations) (name : String) : Bool := (bag.get? name).isSome

def isEmpty (bag : Declarations) : Bool := bag.toList.isEmpty

def size (bag : Declarations) : Nat := bag.toList.length

def filter (keep : String → Bool) (bag : Declarations) : Declarations :=
  ⟨bag.toList.filter fun declaration => keep declaration.1, by
    have distinct := bag.distinct
    simp only [names] at distinct ⊢
    exact distinct.sublist (List.filter_sublist.map Prod.fst)⟩

/-- The declarations whose name is in the list. -/
def subset (bag : Declarations) (wanted : List String) : Declarations :=
  bag.filter fun name => wanted.contains name

/-- The declarations whose name is not in the list. -/
def without (bag : Declarations) (dropped : List String) : Declarations :=
  bag.filter fun name => !dropped.contains name

def erase (bag : Declarations) (name : String) : Declarations :=
  bag.filter fun other => !(other == name)

/-- Adds to a property that holds a list; an empty value counts as none. -/
def appendList (bag : Declarations) (name value separator : String) : Declarations :=
  match bag.get? name with
  | some current =>
    if current.isEmpty then bag.set name value else bag.set name (current ++ separator ++ value)
  | none => bag.set name value

def serializeDeclaration (declaration : Declaration) : String :=
  declaration.1 ++ ":" ++ declaration.2 ++ ";"

def serialize (bag : Declarations) : String :=
  String.join (bag.toList.map serializeDeclaration)

/-- By name, then by value, in code point order. -/
def declarationLE (first second : Declaration) : Bool :=
  decide (first.1 < second.1) || (first.1 == second.1 && decide (first.2 ≤ second.2))

/-- The same declarations ordered by name. -/
def sorted (bag : Declarations) : List Declaration := bag.toList.mergeSort declarationLE

/-- The same text for the same declarations in any order. -/
def stableKey (bag : Declarations) : String :=
  String.intercalate ";" (bag.sorted.map fun declaration => declaration.1 ++ ":" ++ declaration.2)

def beq (first second : Declarations) : Bool := first.toList == second.toList

instance : BEq Declarations := ⟨beq⟩

end Declarations

/-- A rule of a stylesheet. -/
def rule (selector : String) (bag : Declarations) : String :=
  selector ++ "\x7b" ++ bag.serialize ++ "\x7d"

end Artboard.Css
