import Artboard.Classes.Utility
import Artboard.Layout.Basic

/-!
# Size classes

A width or a height that occurs on more than one box becomes a class. Lengths
are counted as they are written, and symbolic ones are not counted.
-/
namespace Artboard.Classes

variable {α : Type} [Scalar α]

/-- How often each text occurs, in the order of first occurrence. -/
abbrev Counts := List (String × Nat)

namespace Counts

def increment (text : String) : Counts → Counts
  | [] => [(text, 1)]
  | (other, count) :: rest =>
    if other = text then (other, count + 1) :: rest else (other, count) :: increment text rest

def ofList (texts : List String) : Counts := texts.foldl (fun counts text => increment text counts) []

def count (counts : Counts) (text : String) : Nat := (counts.lookup text).getD 0

end Counts

structure SizeFrequency where
  widths : Counts
  heights : Counts

namespace SizeFrequency

def none : SizeFrequency := ⟨[], []⟩

/-- The written length of a box where it is not symbolic. -/
def numericLength (symbolic : Option String) (length : α) : Option String :=
  if symbolic.isSome then .none else some (Css.number length 2)

def writtenWidth (layout : Layout α) : Option String := numericLength layout.cssWidth layout.width

def writtenHeight (layout : Layout α) : Option String :=
  numericLength layout.cssHeight layout.height

def ofLayouts (layouts : List (Layout α)) : SizeFrequency :=
  { widths := .ofList (layouts.filterMap writtenWidth)
    heights := .ofList (layouts.filterMap writtenHeight) }

def recurring (counts : Counts) (start : String) (written : Option String) : Option String :=
  written.bind fun number =>
    if 1 < counts.count number then some (pixelClass start number) else .none

def widthClass (sizes : SizeFrequency) (layout : Layout α) : Option String :=
  recurring sizes.widths "w" (writtenWidth layout)

def heightClass (sizes : SizeFrequency) (layout : Layout α) : Option String :=
  recurring sizes.heights "h" (writtenHeight layout)

end SizeFrequency

end Artboard.Classes
