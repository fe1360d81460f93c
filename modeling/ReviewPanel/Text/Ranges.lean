/-!
# Ranges of characters

A property of characters is kept as the list of its code point ranges, both
ends included, in ascending order.
-/

namespace ReviewPanel.Text

/-- Whether a code point lies in one of the ranges. -/
def inRanges (ranges : List (Nat × Nat)) (c : Char) : Bool :=
  ranges.any fun r => r.1 ≤ c.toNat && c.toNat ≤ r.2

end ReviewPanel.Text
