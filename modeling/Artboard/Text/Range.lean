/-!
# Character ranges

A property of characters is a list of code point ranges, ends included.
-/
namespace Artboard.Text

/-- Membership in one of the ranges. -/
def inRanges (ranges : List (Nat × Nat)) (c : Char) : Bool :=
  ranges.any fun range => decide (range.1 ≤ c.toNat) && decide (c.toNat ≤ range.2)

end Artboard.Text
