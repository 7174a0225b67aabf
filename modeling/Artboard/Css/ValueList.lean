import Artboard.Text.Blank

/-!
# Lists of values

A list of shadows or filters is split at separators outside parentheses and
quotes. A closing parenthesis too many is ignored; an open parenthesis or quote
keeps the rest together. Parts are trimmed, and empty ones are left out.
-/
namespace Artboard.Css

/-- Where the splitting of a list has got to. -/
structure SplitState where
  depth : Nat
  quote : Option Char
  /-- The characters of the open part, last first. -/
  current : List Char

namespace SplitState

def start : SplitState := ⟨0, none, []⟩

def part? (state : SplitState) : Option (List Char) :=
  let part := Text.trim state.current.reverse
  if part.isEmpty then none else some part

/-- The character separates two parts; a space as separator stands for every blank. -/
def isSeparator (separator c : Char) : Bool :=
  c = separator || (separator = ' ' && Text.isBlank c)

/-- The next state, or `none` where the character ends a part. -/
def step (separator : Char) (state : SplitState) (c : Char) : Option SplitState :=
  match state.quote with
  | some quote =>
    some { state with current := c :: state.current,
                      quote := if c = quote then none else some quote }
  | none =>
    if c = '"' ∨ c = '\'' then some { state with quote := some c, current := c :: state.current }
    else if c = '(' then
      some { state with depth := state.depth + 1, current := c :: state.current }
    else if c = ')' then
      some { state with depth := state.depth - 1, current := c :: state.current }
    else if state.depth = 0 ∧ isSeparator separator c = true then none
    else some { state with current := c :: state.current }

end SplitState

def splitFrom (separator : Char) (state : SplitState) : List Char → List (List Char)
  | [] => state.part?.toList
  | c :: rest =>
    match state.step separator c with
    | some next => splitFrom separator next rest
    | none => state.part?.toList ++ splitFrom separator .start rest

/-- The parts of a list of values. -/
def splitTopLevel (separator : Char) (text : List Char) : List (List Char) :=
  splitFrom separator .start text

end Artboard.Css
