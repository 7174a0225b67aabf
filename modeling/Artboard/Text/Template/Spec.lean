import Artboard.Text.DecimalDigit
import Artboard.Text.Template.Error

/-!
# Specs of template fields

A spec tells how the value of a field is shown: in how many characters at least,
on which side it is filled up and with what, and how many of its characters are
shown at most. Parts of a spec that have a meaning for numbers only are refused.
-/
namespace Artboard.Text.Template

/-- The greatest number that a template may contain. -/
def maxNumber : Nat := (1 <<< 63) - 1

/-- The number that some decimal digits make, unless it is too long. -/
def numberOf (digits : List Char) : Except TemplateError Nat :=
  let number := digits.foldl (fun total c => total * 10 + decimalDigitValue c) 0
  if maxNumber < number then .error .longNumber else .ok number

/-- The number at the start of a text, if there is one. -/
def leadingNumber (text : List Char) : Except TemplateError (Option Nat × List Char) :=
  let digits := text.takeWhile isDecimalDigit
  if digits.isEmpty then .ok (none, text)
  else (numberOf digits).map fun number => (some number, text.drop digits.length)

/-- A mark that may stand at the start of a text. -/
def leadingMark (marks : List Char) (text : List Char) : Option Char × List Char :=
  match text with
  | c :: rest => if marks.contains c then (some c, rest) else (none, text)
  | [] => (none, text)

/-- A spec taken apart. -/
structure Spec where
  fill : Char
  align : Char
  sign : Option Char
  coercesZero : Bool
  alternate : Bool
  width : Nat
  separator : Option Char
  precision : Option Nat
  type : Char

namespace Spec

def alignMarks : List Char := ['<', '>', '=', '^']

/-- The character to fill with and the side to align to, as far as they are given. -/
def alignment (text : List Char) : Option Char × Option Char × List Char :=
  match text with
  | fill :: align :: rest =>
    if alignMarks.contains align then (some fill, some align, rest)
    else if alignMarks.contains fill then (none, some fill, align :: rest)
    else (none, none, text)
  | [align] => if alignMarks.contains align then (none, some align, []) else (none, none, text)
  | [] => (none, none, [])

/-- A zero in front of the width is the character to fill with, unless that is given. -/
def zeroFill (fill : Option Char) (text : List Char) : Char × List Char :=
  match fill, text with
  | some fill, text => (fill, text)
  | none, '0' :: rest => ('0', rest)
  | none, text => (' ', text)

/-- The mark between groups of digits. -/
def separatorOf (text : List Char) : Except TemplateError (Option Char × List Char) :=
  match text with
  | ',' :: '_' :: _ => .error .bothSeparators
  | '_' :: ',' :: _ => .error .bothSeparators
  | ',' :: rest => .ok (some ',', rest)
  | '_' :: rest => .ok (some '_', rest)
  | text => .ok (none, text)

def precisionOf (text : List Char) : Except TemplateError (Option Nat × List Char) :=
  match text with
  | '.' :: rest => do
    match ← leadingNumber rest with
    | (some number, rest) => return (some number, rest)
    | (none, _) => .error .missingPrecision
  | text => .ok (none, text)

/-- The type at the end of a spec; without one a value is shown as text. -/
def typeOf (spec rest : List Char) : Except TemplateError Char :=
  match rest with
  | [] => .ok 's'
  | [type] => .ok type
  | _ => .error (.invalidSpec (String.ofList spec))

/-- The types of numbers whose digits may be grouped by a mark. -/
def allowsSeparator (separator type : Char) : Bool :=
  "defgEG%F".toList.contains type || (separator == '_' && "boxX".toList.contains type)

def read (spec : List Char) : Except TemplateError Spec := do
  let (fill, align, rest) := alignment spec
  let (sign, rest) := leadingMark [' ', '+', '-'] rest
  let (coercion, rest) := leadingMark ['z'] rest
  let (alternate, rest) := leadingMark ['#'] rest
  let (fill, rest) := zeroFill fill rest
  let (width, rest) ← leadingNumber rest
  let (separator, rest) ← separatorOf rest
  let (precision, rest) ← precisionOf rest
  let type ← typeOf spec rest
  match separator with
  | some separator =>
    if !allowsSeparator separator type then .error (.separatorWithType separator type)
  | none => pure ()
  return {
    fill, sign, separator, precision, type, align := align.getD '<', width := width.getD 0
    coercesZero := coercion.isSome, alternate := alternate.isSome }

/-- The most characters that a value may be filled up to. -/
def maxWidth : Nat := 1 <<< 31

/-- A text in the form of a spec that suits texts. -/
def fit (spec : Spec) (text : List Char) : List Char :=
  let text := text.take (spec.precision.getD text.length)
  let missing := spec.width - text.length
  let left := if spec.align = '>' then missing else if spec.align = '^' then missing / 2 else 0
  List.replicate left spec.fill ++ text ++ List.replicate (missing - left) spec.fill

def apply (spec : Spec) (text : List Char) : Except TemplateError (List Char) :=
  if spec.type ≠ 's' then .error (.unknownType spec.type)
  else
    match spec.sign with
    | some sign => .error (.signOfText sign)
    | none =>
      if spec.coercesZero then .error .zeroOfText
      else if spec.alternate then .error .alternateText
      else if spec.align = '=' then .error .alignmentOfText
      else if maxWidth < spec.width then .error .tooWide
      else .ok (spec.fit text)

end Spec

/-- A text in the form that a spec asks for; an empty spec asks for nothing. -/
def applySpec (spec text : List Char) : Except TemplateError (List Char) :=
  if spec.isEmpty then .ok text else (Spec.read spec).bind fun spec => spec.apply text

end Artboard.Text.Template
