/-!
# Character ranges

A character class is given by the code points it holds, as a list of closed ranges. Membership is all that
the library asks of such a list.
-/

set_option autoImplicit false

namespace DynamicBlocks.Text

/-- Whether `code` lies in one of the closed ranges. -/
def inRanges (ranges : List (Nat × Nat)) (code : Nat) : Bool :=
  ranges.any fun range => decide (range.1 ≤ code) && decide (code ≤ range.2)

/-- A code point is in the ranges exactly when one of them encloses it. -/
theorem inRanges_iff (ranges : List (Nat × Nat)) (code : Nat) :
    inRanges ranges code = true ↔ ∃ range ∈ ranges, range.1 ≤ code ∧ code ≤ range.2 := by
  simp [inRanges]

end DynamicBlocks.Text
