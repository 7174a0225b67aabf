import Artboard.Text.Range
import Artboard.Text.CaseTable

/-!
# Changing case

Every character is replaced by its capitals or its small characters, which may be
several. A capital sigma becomes the final one when a letter stands before it
and none after it, leaving aside the characters that case ignores.
-/
namespace Artboard.Text

namespace CaseRun

def covers (run : CaseRun) (code : Nat) : Bool :=
  decide (run.first ≤ code) && decide (code ≤ run.last) && (code - run.first) % run.step == 0

end CaseRun

/-- The characters that replace one character. -/
def mapCase (runs : List CaseRun) (expansions : List (Nat × List Nat)) (c : Char) : List Char :=
  match expansions.lookup c.toNat with
  | some codes => codes.map Char.ofNat
  | none =>
    match runs.find? (·.covers c.toNat) with
    | some run => [Char.ofNat (c.toNat + run.shift).toNat]
    | none => [c]

def upperChar (c : Char) : List Char :=
  if c.toNat < 0x80 then [c.toUpper] else mapCase upperRuns upperExpansions c

def lowerChar (c : Char) : List Char :=
  if c.toNat < 0x80 then [c.toLower] else mapCase lowerRuns lowerExpansions c

def isCased (c : Char) : Bool := inRanges casedRanges c

def isCaseIgnorable (c : Char) : Bool := inRanges caseIgnorableRanges c

/-- The first character that case does not ignore has case. -/
def meetsCased (text : List Char) : Bool :=
  match text.dropWhile isCaseIgnorable with
  | [] => false
  | c :: _ => isCased c

def capitalSigma : Char := 'Σ'

/-- Lower-cases a text; `before` holds what was read, last character first. -/
def lowerFrom (before : List Char) : List Char → List Char
  | [] => []
  | c :: rest =>
    let small :=
      if c = capitalSigma then
        if meetsCased before && !meetsCased rest then ['ς'] else ['σ']
      else lowerChar c
    small ++ lowerFrom (c :: before) rest

def upper (text : List Char) : List Char := text.flatMap upperChar

def lower (text : List Char) : List Char := lowerFrom [] text

/-- The text in capitals. -/
def upperText (text : String) : String := String.ofList (upper text.toList)

/-- The text in small letters. -/
def lowerText (text : String) : String := String.ofList (lower text.toList)

end Artboard.Text
