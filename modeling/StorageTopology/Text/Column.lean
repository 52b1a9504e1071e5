/-!
# Columns of a table

A column has a width in characters. A shorter text is filled up with spaces on the right
(`padEnd`) or on the left (`padStart`); a longer one is kept whole.
-/

namespace StorageTopology.Text

/-- `s` at the left of a column of width `width`. -/
def padEnd (width : Nat) (s : String) : String :=
  String.ofList (s.toList.rightpad width ' ')

/-- `s` at the right of a column of width `width`. -/
def padStart (width : Nat) (s : String) : String :=
  String.ofList (s.toList.leftpad width ' ')

theorem length_padEnd (width : Nat) (s : String) :
    (padEnd width s).length = max width s.length := by
  simp [padEnd, List.rightpad, ← String.length_toList]
  omega

theorem length_padStart (width : Nat) (s : String) :
    (padStart width s).length = max width s.length := by
  simp [padStart, List.leftpad, ← String.length_toList]
  omega

end StorageTopology.Text
