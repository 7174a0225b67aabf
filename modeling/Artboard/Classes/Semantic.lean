import Artboard.Text.Blank
import Artboard.Text.Case

/-!
# Class names from node names

The name of a node in small letters, with runs of separators as hyphens and all
other characters dropped, makes a class unless it says nothing: generic names,
very short ones and bare numbers give way to the fallback.
-/
namespace Artboard.Classes

def genericNames : List String :=
  ["frame", "group", "rectangle", "ellipse", "vector", "polygon", "star", "line", "text",
   "component", "instance"]

def maxLength : Nat := 50

def isSeparator (c : Char) : Bool :=
  Text.isBlank c || "()[]\x7b\x7d/\\,.".toList.contains c

/-- Replaces each run of separators by one hyphen; `inRun` tells that the last character was one. -/
def hyphenate (inRun : Bool) : List Char → List Char
  | [] => []
  | c :: rest =>
    if isSeparator c then if inRun then hyphenate true rest else '-' :: hyphenate true rest
    else c :: hyphenate false rest

def isClassChar (c : Char) : Bool := c.isLower || c.isDigit || c = '_' || c = '-'

/-- Replaces each run of hyphens by one. -/
def collapse : List Char → List Char
  | '-' :: '-' :: rest => collapse ('-' :: rest)
  | c :: rest => c :: collapse rest
  | [] => []

/-- Drops the hyphens at both ends. -/
def stripHyphens (text : List Char) : List Char :=
  ((text.dropWhile (· == '-')).reverse.dropWhile (· == '-')).reverse

def sanitizeChars (name : List Char) : List Char :=
  let kept := (hyphenate false (Text.lower (Text.trim name))).filter isClassChar
  stripHyphens ((stripHyphens (collapse kept)).take maxLength)

/-- A name as a class, which may be empty. -/
def sanitize (name : String) : String := String.ofList (sanitizeChars name.toList)

/-- A generic name followed by a hyphen and a number. -/
def isNumberedGeneric (token : List Char) : Bool :=
  let word := token.takeWhile Char.isLower
  match token.drop word.length with
  | '-' :: digits =>
    !digits.isEmpty && digits.all Char.isDigit && genericNames.contains (String.ofList word)
  | _ => false

/-- A token that says nothing about its node. -/
def isUninformative (token : List Char) : Bool :=
  decide (token.length < 2) || token.all Char.isDigit ||
    genericNames.contains (String.ofList token) || isNumberedGeneric token

/-- The class of a node's name, or the fallback. -/
def semantic (name fallback : String) : String :=
  let token := sanitizeChars name.toList
  if isUninformative token then fallback
  else if (token.headD 'a').isDigit then fallback ++ "-" ++ String.ofList token
  else String.ofList token

end Artboard.Classes
