/-
# Sets of code points

A set of characters that a standard lists is written as the ranges of its code points.
-/

namespace PortForward.Text

/-- Lies in one of the ranges, ends included. -/
def inRanges (ranges : List (Nat × Nat)) (n : Nat) : Bool :=
  ranges.any fun (first, last) => first ≤ n && n ≤ last

@[simp] theorem inRanges_nil (n : Nat) : inRanges [] n = false := rfl

/-- A code point lies in the ranges exactly if it lies in one of them. -/
theorem inRanges_iff {ranges : List (Nat × Nat)} {n : Nat} :
    inRanges ranges n = true ↔ ∃ r ∈ ranges, r.1 ≤ n ∧ n ≤ r.2 := by
  simp [inRanges]

end PortForward.Text
