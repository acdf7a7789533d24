/-!
# Sets of characters as ranges of code points

A property of characters is given as a table of ranges in ascending order, both ends included.
-/

namespace Duet.Text

/-- Whether a code point lies in one of the ranges. -/
def inRanges (table : List (Nat × Nat)) (n : Nat) : Bool :=
  table.any fun (low, high) => low ≤ n && n ≤ high

theorem inRanges_cons (low high n : Nat) (table : List (Nat × Nat)) :
    inRanges ((low, high) :: table) n = ((low ≤ n && n ≤ high) || inRanges table n) := rfl

end Duet.Text
