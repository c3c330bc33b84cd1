/-!
# Ranges of characters

A property of characters is a list of closed ranges of code points.
-/

namespace Handout

/-- Closed ranges of code points, each from its first to its last. -/
abbrev CodeRanges := List (Nat × Nat)

/-- Membership of a character in one of the ranges. -/
def CodeRanges.has (ranges : CodeRanges) (c : Char) : Bool :=
  ranges.any fun r => r.1 ≤ c.toNat && c.toNat ≤ r.2

end Handout
