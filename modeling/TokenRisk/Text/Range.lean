/-!
# Ranges of code points

A character class beyond ASCII is a list of ranges in increasing order. Membership is a plain
search: text outside ASCII is rare in what this library reads.
-/

namespace TokenRisk.Text

/-- Whether the code point of `c` lies in one of the ranges, ends included. -/
def inRanges (ranges : List (Nat × Nat)) (c : Char) : Bool :=
  ranges.any fun r => r.1 ≤ c.toNat && c.toNat ≤ r.2

/-- `inRanges` holds when some range holds the code point. -/
theorem inRanges_iff {ranges : List (Nat × Nat)} {c : Char} :
    inRanges ranges c = true ↔ ∃ r ∈ ranges, r.1 ≤ c.toNat ∧ c.toNat ≤ r.2 := by
  simp [inRanges]

end TokenRisk.Text
