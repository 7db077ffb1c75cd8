/-!
Sets of characters given by ranges of code points, in ascending order.
-/

namespace Breakwater.Text

/-- Code points from the first to the last one of each pair. -/
abbrev CodeRanges := List (Nat × Nat)

/-- Whether a code point lies in one of the ranges. -/
def CodeRanges.contains (ranges : CodeRanges) (code : Nat) : Bool :=
  ranges.any fun range => range.1 ≤ code && code ≤ range.2

end Breakwater.Text
