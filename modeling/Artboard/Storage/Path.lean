import Artboard.Text.Quoted

/-!
# Paths

A path is a sequence of steps, from the root or from where it is used. Empty
steps and steps that stay where they are do not count. Steps to the parent are
kept, because where they lead depends on the tree.
-/
namespace Artboard.Storage

structure Path where
  /-- What stands before the steps: nothing, or the root. -/
  root : String
  steps : List String
deriving DecidableEq, Repr

def splitSteps : List Char → List (List Char)
  | [] => [[]]
  | c :: rest =>
    if c = '/' then [] :: splitSteps rest
    else
      match splitSteps rest with
      | first :: more => (c :: first) :: more
      | [] => [[c]]

namespace Path

def parent : String := ".."

/-- A step that leads somewhere. -/
def isStep (step : List Char) : Bool := !step.isEmpty && step != ['.']

/-- The root that a number of leading bars writes. Two of them may mean another root, so they
stay two. -/
def rootOf : Nat → String
  | 0 => ""
  | 2 => "//"
  | _ => "/"

def ofText (text : String) : Path :=
  { root := rootOf (text.toList.takeWhile (· = '/')).length
    steps := ((splitSteps text.toList).filter isStep).map String.ofList }

def absolute (path : Path) : Bool := !path.root.isEmpty

def text (path : Path) : String :=
  let text := path.root ++ String.intercalate "/" path.steps
  if text.isEmpty then "." else text

/-- The path from a base, which an absolute path does not need. -/
def join (base path : Path) : Path :=
  if path.absolute then path else { base with steps := base.steps ++ path.steps }

def child (path : Path) (name : String) : Path := { path with steps := path.steps ++ [name] }

/-- The last step. -/
def name (path : Path) : String := path.steps.getLast?.getD ""

/-- The same place with another last step. -/
def withName (path : Path) (name : String) : Path :=
  { path with steps := path.steps.dropLast ++ [name] }

/-- A name without what follows its last point, unless the point is at one of its ends. -/
def stemOf (name : List Char) : List Char :=
  let ending := name.reverse.takeWhile (· != '.')
  let start := name.take (name.length - ending.length - 1)
  if ending.isEmpty || start.isEmpty then name else start

def stem (path : Path) : String := String.ofList (stemOf path.name.toList)

end Path

end Artboard.Storage
