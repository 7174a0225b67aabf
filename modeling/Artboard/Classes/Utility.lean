import Artboard.Css.Declarations
import Artboard.Text.DecimalDigit

/-!
# Utility classes

A utility class stands for one declaration. Common layout declarations have a
name of their own; gaps and sizes in pixels carry the length in the name. The
rule of a class is found from its name alone, and only classes in use have one.
-/
namespace Artboard.Classes

/-- The declarations with a class of their own, in the order of their rules. -/
def simpleUtilities : List (Css.Declaration × String) :=
  [(("display", "flex"), "flex"),
   (("flex-direction", "column"), "flex-col"),
   (("flex-wrap", "wrap"), "flex-wrap"),
   (("justify-content", "center"), "justify-center"),
   (("justify-content", "flex-end"), "justify-end"),
   (("justify-content", "space-between"), "justify-between"),
   (("align-items", "flex-start"), "items-start"),
   (("align-items", "center"), "items-center"),
   (("align-items", "flex-end"), "items-end"),
   (("align-items", "baseline"), "items-baseline"),
   (("align-self", "flex-start"), "self-start"),
   (("align-self", "flex-end"), "self-end"),
   (("align-self", "center"), "self-center"),
   (("align-self", "stretch"), "self-stretch"),
   (("flex-grow", "1"), "grow"),
   (("flex-shrink", "1"), "shrink"),
   (("flex-basis", "auto"), "basis-auto"),
   (("flex-basis", "0px"), "basis-0"),
   (("box-sizing", "border-box"), "box-border"),
   (("overflow", "hidden"), "overflow-hidden"),
   (("width", "auto"), "w-auto"),
   (("height", "auto"), "h-auto")]

/-- The properties whose length is part of a class, with the start of its name. -/
def lengthUtilities : List (String × String) :=
  [("gap", "gap"), ("row-gap", "gap-y"), ("column-gap", "gap-x"), ("width", "w"), ("height", "h")]

/-- The properties of flex layout among them; sizes become classes by how often they recur. -/
def gapProperties : List String := ["gap", "row-gap", "column-gap"]

def lengthClass (start value : String) : String := s!"{start}-[{value}]"

/-- A class for a size in pixels. -/
def pixelClass (start number : String) : String := s!"{start}-[{number}px]"

/-- Nothing is left, or one line break. -/
def atEnd (text : List Char) : Bool := text.isEmpty || text == ['\n']

/-- Digits with an optional fraction, and what follows them. -/
def spanNumber (text : List Char) : Option (List Char × List Char) :=
  let whole := text.takeWhile Text.isDecimalDigit
  if whole.isEmpty then none
  else
    let rest := text.drop whole.length
    match rest with
    | '.' :: after =>
      let fraction := after.takeWhile Text.isDecimalDigit
      if fraction.isEmpty then some (whole, rest)
      else some (whole ++ '.' :: fraction, after.drop fraction.length)
    | _ => some (whole, rest)

/-- A length in pixels without a sign. -/
def isPixelLength (text : List Char) : Bool :=
  match spanNumber text with
  | some (_, rest) => "px".toList.isPrefixOf rest && atEnd (rest.drop 2)
  | none => false

/-- The class of a layout declaration, if it has one. -/
def utilityClass? (declaration : Css.Declaration) : Option String :=
  match simpleUtilities.lookup declaration with
  | some name => some name
  | none =>
    if gapProperties.contains declaration.1 && isPixelLength declaration.2.toList then
      (lengthUtilities.lookup declaration.1).map fun start => lengthClass start declaration.2
    else none

/-- The classes of the layout declarations, and the other declarations. -/
def splitUtilities (bag : Css.Declarations) : List String × Css.Declarations :=
  (bag.toList.filterMap utilityClass?,
    .ofList (bag.toList.filter fun declaration => (utilityClass? declaration).isNone))

def selectorSpecials : List Char := "!\"#$%&'()*+,./:;<=>?@[\\]^`\x7b|\x7d~".toList

/-- Escapes the characters that have a meaning in a selector. -/
def escapeSelectorChars (name : List Char) : List Char :=
  name.flatMap fun c => if selectorSpecials.contains c then ['\\', c] else [c]

def escapeSelector (name : String) : String := String.ofList (escapeSelectorChars name.toList)

/-- The declaration of a class with a length, read from what follows the start of its name. -/
def lengthOfClass (property : String) (text : List Char) : Option Css.Declaration :=
  match text with
  | '-' :: '[' :: rest =>
    let (sign, unsigned) :=
      match rest with
      | '-' :: rest => (['-'], rest)
      | rest => ([], rest)
    match spanNumber unsigned with
    | some (number, rest) =>
      if "px]".toList.isPrefixOf rest && atEnd (rest.drop 3) then
        some (property, String.ofList (sign ++ number ++ "px".toList))
      else none
    | none => none
  | _ => none

/-- The declaration that a class stands for. -/
def declarationOf (name : String) : Option Css.Declaration :=
  match simpleUtilities.find? fun entry => entry.2 == name with
  | some (declaration, _) => some declaration
  | none =>
    lengthUtilities.findSome? fun (property, start) =>
      if start.toList.isPrefixOf name.toList then
        lengthOfClass property (name.toList.drop start.length)
      else none

def classSelector (scope name : String) : String :=
  if scope.isEmpty then "." ++ escapeSelector name else scope ++ " ." ++ escapeSelector name

/-- The rule of a utility class, if it is one. -/
def utilityRule (name scope : String) : Option String :=
  (declarationOf name).map fun declaration =>
    Css.rule (classSelector scope name) (.ofList [declaration])

/-- The classes in use, each once. -/
structure UtilitySet where
  names : List String
deriving Inhabited

namespace UtilitySet

def empty : UtilitySet := ⟨[]⟩

def add (used : UtilitySet) (names : List String) : UtilitySet :=
  ⟨names.foldl (fun known name => if known.contains name then known else name :: known) used.names⟩

def contains (used : UtilitySet) (name : String) : Bool := used.names.contains name

def size (used : UtilitySet) : Nat := used.names.length

/-- Classes with a name of their own in the order of the table, then the others by name. -/
def ordered (used : UtilitySet) : List String :=
  let simple := simpleUtilities.map Prod.snd
  simple.filter used.contains ++
    (used.names.filter fun name => !simple.contains name).mergeSort fun first second =>
      decide (first ≤ second)

def css (used : UtilitySet) (scope : String) : String :=
  String.intercalate "\n" (used.ordered.filterMap fun name => utilityRule name scope)

end UtilitySet

end Artboard.Classes
