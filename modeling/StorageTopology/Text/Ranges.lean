/-!
# Sets of characters as tables of code-point ranges

A property of characters that a standard lists as ranges of code points is a table of closed
ranges; `inRanges` reads it.
-/

namespace StorageTopology.Text

/-- Whether `c` lies in one of the closed ranges of `table`. -/
def inRanges (table : List (Nat × Nat)) (c : Char) : Bool :=
  table.any fun r => r.1 ≤ c.toNat && c.toNat ≤ r.2

theorem inRanges_iff {table : List (Nat × Nat)} {c : Char} :
    inRanges table c = true ↔ ∃ r ∈ table, r.1 ≤ c.toNat ∧ c.toNat ≤ r.2 := by
  simp [inRanges]

end StorageTopology.Text
