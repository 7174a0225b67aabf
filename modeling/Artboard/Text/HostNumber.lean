import Artboard.Text.Entity

/-!
# Numeric host addresses

A host may be given by a number: four decimal parts between points, or eight
hexadecimal parts between colons, of which a run of zeros may be left out once
and the last two may have the decimal form.
-/
namespace Artboard.Text.HostNumber

/-- One part of the decimal form: up to 255, without zeros in front. -/
def isOctet (part : List Char) : Bool :=
  !part.isEmpty && part.all Char.isDigit && decide (part.length ≤ 3) &&
    (part == ['0'] || part.head? != some '0') && decide (numberInBase 10 part ≤ 255)

/-- Four decimal parts. -/
def isShort (text : List Char) : Bool :=
  let parts := splitAt '.' text
  parts.length == 4 && parts.all isOctet

/-- One part of the hexadecimal form. -/
def isHextet (part : List Char) : Bool :=
  !part.isEmpty && part.all isHexDigit && decide (part.length ≤ 4)

/-- The parts between colons, the decimal ones at the end replaced by two hexadecimal ones. -/
def hextets (text : List Char) : Option (List (List Char)) :=
  let parts := splitAt ':' text
  match parts.getLast? with
  | some last =>
    if last.contains '.' then
      if isShort last then some (parts.dropLast ++ [['0'], ['0']]) else none
    else some parts
  | none => none

/-- The number of parts of a full address. -/
def partCount : Nat := 8

/-- The parts in front of the left out zeros, or those behind them in reverse: none when the text
has the mark of the zeros at its end, and otherwise none of them is empty. -/
def sideParts (parts : List (List Char)) : Option (List (List Char)) :=
  match parts with
  | [] :: rest => if rest.isEmpty then some [] else none
  | parts => some parts

/-- Parts with zeros left out between them. -/
def isShortened (before after : List (List Char)) : Bool :=
  match sideParts before, sideParts after.reverse with
  | some before, some after =>
    decide (before.length + after.length < partCount) && (before ++ after).all isHextet
  | _, _ => false

/-- The positions of empty parts that are neither the first nor the last. -/
def innerGaps (parts : List (List Char)) : List Nat :=
  (List.range parts.length).filter fun index =>
    decide (0 < index) && decide (index + 1 < parts.length) && parts[index]? == some []

/-- Hexadecimal parts; the name of a zone may follow after a percent sign. -/
def isLong (text : List Char) : Bool :=
  let address := text.takeWhile (· != '%')
  let zone := text.drop address.length
  let named := zone.isEmpty || (decide (1 < zone.length) && !(zone.drop 1).contains '%')
  match hextets address with
  | some parts =>
    named && decide (3 ≤ (splitAt ':' address).length) && decide (parts.length ≤ partCount + 1) &&
      (match innerGaps parts with
       | [] => parts.length == partCount && parts.all isHextet
       | [gap] => isShortened (parts.take gap) (parts.drop (gap + 1))
       | _ => false)
  | none => false

end Artboard.Text.HostNumber
