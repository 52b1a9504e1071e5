import StorageTopology.Decimal.Scientific
import StorageTopology.Toml.Value

/-!
# Bounds of TOML numbers

A document may write numbers of any size. A number that no setting asks for must still be one that
a machine can hold: an integer that has a value, of 128 bits, signed or unsigned, or a figure that
is finite unless its text is the name of an infinity. `Value.isBounded` looks at every number in a
value.
-/

namespace StorageTopology.Toml

/-- An integer of 128 bits, with or without sign. -/
def isBoundedInteger (n : Int) : Bool :=
  -Int.ofNat (Nat.pow 2 127) ≤ n && n < Int.ofNat (Nat.pow 2 128)

/-- The text of a figure that is not too large, or a name. -/
def isBoundedFloat (lexeme : String) : Bool :=
  match Scientific.read? (lexeme.toList.filter (· ≠ '_')) with
  | some s => s.nearest.isFinite
  | none => true

mutual

/-- All numbers in a value are bounded. -/
def Value.isBounded : Value → Bool
  | .integer n => n.value?.any isBoundedInteger
  | .float lexeme => isBoundedFloat lexeme
  | .array items => itemsBounded items
  | .table _ entries => entriesBounded entries
  | .tables items => tablesBounded items
  | .text _ | .boolean _ | .moment _ => true

/-- All numbers in the items of an array are bounded. -/
def itemsBounded : List Value → Bool
  | [] => true
  | v :: vs => v.isBounded && itemsBounded vs

/-- All numbers in the entries of a table are bounded. -/
def entriesBounded : List (String × Value) → Bool
  | [] => true
  | (_, v) :: es => v.isBounded && entriesBounded es

/-- All numbers in a list of tables are bounded. -/
def tablesBounded : List (List (String × Value)) → Bool
  | [] => true
  | es :: items => entriesBounded es && tablesBounded items

end

end StorageTopology.Toml
