/-!
# Ranges of characters

A class of characters is given by the closed ranges of its code points in ascending order.
-/

namespace ProofDesk.Text

/-- Whether `c` lies in one of the ranges. -/
def inRanges (ranges : Array (Nat × Nat)) (c : Char) : Bool :=
  ranges.any fun r => r.1 ≤ c.toNat && c.toNat ≤ r.2

end ProofDesk.Text
