import Artboard.Storage.Path

/-!
# Trees of files

A tree holds texts and directories by the steps that lead to them from the root.
Making a directory makes those above it, and a file is written only into a
directory that is there.
-/
namespace Artboard.Storage

/-- Why something cannot be done at a path. -/
inductive Obstacle where
  | missing
  | occupied
  | throughFile
  | directory
  /-- The path, or a step that is to be taken, is longer than paths or names can be. -/
  | long
  /-- The path has a character that ends a text where paths are handed on. -/
  | nullCharacter
deriving DecidableEq, Repr

structure StorageFault where
  obstacle : Obstacle
  path : Path
deriving DecidableEq, Repr

namespace Obstacle

def description : Obstacle → String
  | missing => "[Errno 2] No such file or directory"
  | occupied => "[Errno 17] File exists"
  | throughFile => "[Errno 20] Not a directory"
  | directory => "[Errno 21] Is a directory"
  | long => "[Errno 36] File name too long"
  | nullCharacter => "embedded null byte"

end Obstacle

def StorageFault.message (fault : StorageFault) : String :=
  if fault.obstacle = .nullCharacter then fault.obstacle.description
  else s!"{fault.obstacle.description}: {Text.quotedText fault.path.text}"

structure Tree where
  directories : List (List String)
  files : List (List String × String)

namespace Tree

/-- The directories above a place, the root and the place itself left out. -/
def ancestors (place : List String) : List (List String) :=
  (List.range (place.length - 1)).map fun count => place.take (count + 1)

/-- A directory with files below it. -/
def ofFiles (base : List String) (files : List (List String × String)) : Tree :=
  { directories := base :: ancestors base ++ files.flatMap fun file => ancestors file.1
    files }

def hasDirectory (tree : Tree) (steps : List String) : Bool :=
  steps.isEmpty || tree.directories.contains steps

def file? (tree : Tree) (steps : List String) : Option String := tree.files.lookup steps

/-- The bytes of the longest name. -/
def nameLimit : Nat := 255

/-- The bytes of the longest path. -/
def pathLimit : Nat := 4095

/-- What is wrong with a path wherever it leads. -/
def obstacleIn? (path : Path) : Option Obstacle :=
  if path.text.toList.contains '\x00' then some .nullCharacter
  else if path.text.utf8ByteSize > pathLimit then some .long
  else none

/-- Where a step from a place leads. -/
def next (place : List String) (step : String) : List String :=
  if step = Path.parent then place.dropLast else place ++ [step]

/-- Where further steps lead; a directory must be there to take one. -/
def walk (tree : Tree) (place : List String) : List String → Except Obstacle (List String)
  | [] => .ok place
  | step :: rest =>
    if tree.hasDirectory place then
      if step.utf8ByteSize > nameLimit then .error .long
      else tree.walk (next place step) rest
    else if (tree.file? place).isSome then .error .throughFile
    else .error .missing

def resolve (tree : Tree) (path : Path) : Except StorageFault (List String) :=
  match obstacleIn? path with
  | some obstacle => .error { obstacle, path }
  | none =>
    match tree.walk [] path.steps with
    | .ok place => .ok place
    | .error obstacle => .error { obstacle, path }

/-- Something is at the path. It cannot be told of paths that are too long. -/
def holds (tree : Tree) (path : Path) : Except StorageFault Bool :=
  match tree.resolve path with
  | .ok place => .ok (tree.hasDirectory place || (tree.file? place).isSome)
  | .error fault => if fault.obstacle = .long then .error fault else .ok false

def read (tree : Tree) (path : Path) : Except StorageFault String := do
  let place ← tree.resolve path
  match tree.file? place with
  | some text => return text
  | none =>
    .error { obstacle := if tree.hasDirectory place then .directory else .missing, path }

/-- What keeps a directory from being at a place: a name that is too long, or a file. -/
def obstacleAt? (tree : Tree) (place : List String) (step : String) (last : Bool) :
    Option Obstacle :=
  if step.utf8ByteSize > nameLimit then some .long
  else if (tree.file? place).isSome then some (if last then .occupied else .throughFile)
  else none

/-- The tree with the directories along the steps from a directory to which some steps were
taken. What fails is the whole path, or after a first directory was made, the path so far. -/
def makeAlong (tree : Tree) (path : Path) (place taken : List String) (made : Bool) :
    List String → Except StorageFault Tree
  | [] => .ok tree
  | step :: rest =>
    let place := next place step
    let taken := taken ++ [step]
    if tree.hasDirectory place then tree.makeAlong path place taken made rest
    else
      match tree.obstacleAt? place step (made || rest.isEmpty) with
      | some obstacle =>
        .error { obstacle, path := if made then { path with steps := taken } else path }
      | none =>
        { tree with directories := place :: tree.directories }.makeAlong path place taken true rest

def makeDirectory (tree : Tree) (path : Path) : Except StorageFault Tree :=
  match obstacleIn? path with
  | some obstacle => .error { obstacle, path }
  | none => tree.makeAlong path [] [] false path.steps

/-- Replaces the text at a place, or adds it at the end. -/
def putFile (place : List String) (text : String) :
    List (List String × String) → List (List String × String)
  | [] => [(place, text)]
  | (other, old) :: rest =>
    if other = place then (place, text) :: rest else (other, old) :: putFile place text rest

def write (tree : Tree) (path : Path) (text : String) : Except StorageFault Tree := do
  let place ← tree.resolve path
  if tree.hasDirectory place then .error { obstacle := .directory, path }
  return { tree with files := putFile place text tree.files }

end Tree

end Artboard.Storage
