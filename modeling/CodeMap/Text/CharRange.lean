/-
Character classes given by their ranges of code points.

A class of a standard is a table of closed ranges in ascending order; membership is one question
to the table, so every class of the library is read the same way.
-/

namespace CodeMap.Text

/-- A table of closed ranges of code points. -/
abbrev CharRanges := List (Nat × Nat)

/-- The character lies in one of the ranges. -/
def CharRanges.holds (ranges : CharRanges) (c : Char) : Bool :=
  ranges.any fun range => range.1 ≤ c.toNat && c.toNat ≤ range.2

theorem CharRanges.holds_iff {ranges : CharRanges} {c : Char} :
    ranges.holds c = true ↔ ∃ range ∈ ranges, range.1 ≤ c.toNat ∧ c.toNat ≤ range.2 := by
  simp [CharRanges.holds]

end CodeMap.Text
