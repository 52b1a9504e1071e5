/-!
# Unsigned decimal numbers of a bounded width

`Decimal.unsigned?` reads a whole number: an optional plus sign, then one or more decimal
digits, with any number of leading zeros, and a value below the limit of its word. Writing is
`Nat.repr`.
-/

namespace StorageTopology.Decimal

/-- One or more decimal digits. -/
def isDigits (cs : List Char) : Bool :=
  !cs.isEmpty && cs.all Char.isDigit

/-- The number written by `cs`, if it is one and lies below `limit`. -/
def unsigned? (limit : Nat) (cs : List Char) : Option Nat :=
  let digits := if cs.head? = some '+' then cs.tail else cs
  let value := Nat.ofDigitChars 10 digits 0
  if isDigits digits && decide (value < limit) then some value else none

/-- A number below 2⁶⁴. -/
def word64? (cs : List Char) : Option UInt64 :=
  (unsigned? UInt64.size cs).map UInt64.ofNat

/-- A number below 2³². -/
def word32? (cs : List Char) : Option UInt32 :=
  (unsigned? UInt32.size cs).map UInt32.ofNat

end StorageTopology.Decimal
