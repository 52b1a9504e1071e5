import StorageTopology.Decimal.Binary64

/-!
# Figures with a fixed number of decimal places

`Binary64.fixed` writes the exact decimal value of a figure with a given number of places after
the point. A half goes to the even neighbour, and the sign of a negative figure stays, also when
only zeros are left.
-/

namespace StorageTopology.Binary64

/-- `x` with `places` digits after the point, at least one. -/
def fixed (places : Nat) (x : Binary64) : String :=
  let sign := if x.isNegative then "-" else ""
  if x.isFinite then
    let one := Nat.pow 10 places
    let n := Decimal.roundHalfEven (x.magnitude * one) unit
    let fraction := Nat.toDigits 10 (n % one)
    sign ++ (n / one).repr ++ "." ++ String.ofList (fraction.leftpad places '0')
  else if x.fraction = 0 then sign ++ "inf"
  else "NaN"

end StorageTopology.Binary64
