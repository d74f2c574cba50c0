import Lexicon.Text.CodePoint

/-!
# Ranges of numbers

The tables of code point properties are lists of closed ranges in increasing
order, looked through from the front.
-/

namespace Lexicon

/-- Whether one of the closed ranges holds a number. -/
def inRanges (ranges : List (Nat × Nat)) (n : Nat) : Bool :=
  ranges.any fun r => r.1 ≤ n && n ≤ r.2

@[simp] theorem inRanges_iff {ranges : List (Nat × Nat)} {n : Nat} :
    inRanges ranges n ↔ ∃ r ∈ ranges, r.1 ≤ n ∧ n ≤ r.2 := by
  simp [inRanges]

end Lexicon
