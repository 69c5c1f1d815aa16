/-!
# `Text/CodeRanges` — classes of characters as ranges of code points

The tables of this library that hold a property of characters list the code points that have it, as
closed ranges from the smallest to the largest.
-/

set_option autoImplicit false

namespace GuardedUi.Text

abbrev CodeRanges := List (Nat × Nat)

/-- Whether a character lies in one of the ranges. -/
def CodeRanges.covers (ranges : CodeRanges) (c : Char) : Bool :=
  ranges.any fun range => range.1 ≤ c.toNat && c.toNat ≤ range.2

end GuardedUi.Text
