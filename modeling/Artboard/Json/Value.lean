/-!
# Structured data

Integers and floating-point numbers are told apart, and an object keeps the order
in which its keys first occurred. A key that occurs again takes the later value.
-/
namespace Artboard

inductive Json where
  | null
  | bool (value : Bool)
  | int (value : Int)
  | float (value : Float)
  | string (value : String)
  | array (items : List Json)
  | object (members : List (String × Json))
deriving Inhabited

namespace Json

/-- Replaces the value of a key in place, or adds the key at the end. -/
def insertMember (key : String) (value : Json) : List (String × Json) → List (String × Json)
  | [] => [(key, value)]
  | (other, old) :: rest =>
    if other = key then (key, value) :: rest
    else (other, old) :: insertMember key value rest

/-- The value of a member of an object. -/
def get? (json : Json) (key : String) : Option Json :=
  match json with
  | .object members => members.lookup key
  | _ => none

end Json

end Artboard
