/-!
# Sets of characters as ranges

A set of code points is held as the list of its maximal ranges, first and last, in ascending order.
-/

namespace Safeguard.Text

/-- Whether `n` lies in one of the ranges. The list ascends, so the search ends at the first range
that begins above `n`. -/
def inRanges : List (Nat × Nat) → Nat → Bool
  | [], _ => false
  | (first, last) :: rest, n => if n < first then false else n ≤ last || inRanges rest n

end Safeguard.Text
