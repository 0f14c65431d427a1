/-!
# Sets of characters as ranges

A property of characters is stored as the list of the ranges of numbers that have it.
-/

namespace SharedMembers.Text

/-- Ranges `(first, last)` of character numbers, both ends included. -/
abbrev Ranges := List (Nat × Nat)

/-- A character lies in one of the ranges. -/
def Ranges.contains (ranges : Ranges) (c : Char) : Bool :=
  ranges.any fun (first, last) => first ≤ c.toNat && c.toNat ≤ last

theorem Ranges.contains_iff {ranges : Ranges} {c : Char} :
    ranges.contains c = true ↔ ∃ r ∈ ranges, r.1 ≤ c.toNat ∧ c.toNat ≤ r.2 := by
  simp [Ranges.contains]

end SharedMembers.Text
