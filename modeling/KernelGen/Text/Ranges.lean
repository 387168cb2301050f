/-!
# Sets of characters as ranges

A set of characters is a list of ranges of code points, given by their ends, in increasing order.
-/

namespace KernelGen.Text

/-- Whether a number lies in one of some increasing ranges. -/
def inRanges (n : Nat) : List (Nat × Nat) → Bool
  | [] => false
  | (low, high) :: ranges => low ≤ n && (n ≤ high || inRanges n ranges)

end KernelGen.Text
