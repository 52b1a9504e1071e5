import StorageTopology.Json.Value

/-!
# JSON numbers as floating-point figures

A number is read as a figure from its leading digits: as many of them as make a whole number
below 2⁶⁴. Digits of the whole part that do not fit raise the power of ten, digits of the
fraction that do not fit are left out. The significand is rounded to a figure, and so is its
product with, or its quotient by, the power of ten. The answer is therefore not always the
figure nearest to the text, but it is the same on every machine.
-/

namespace StorageTopology.Json

/-- The digits that have been taken, as a whole number below 2⁶⁴, and the power of ten that it
is to be multiplied by; `full` once a digit did not fit. -/
structure Significand where
  value : Nat
  scale : Int
  full : Bool

namespace Significand

/-- Take a digit of the whole part. -/
def takeWhole (s : Significand) (c : Char) : Significand :=
  let next := s.value * 10 + (c.toNat - '0'.toNat)
  if s.full ∨ UInt64.size ≤ next then ⟨s.value, s.scale + 1, true⟩ else ⟨next, s.scale, false⟩

/-- Take a digit of the fraction. -/
def takeFraction (s : Significand) (c : Char) : Significand :=
  let next := s.value * 10 + (c.toNat - '0'.toNat)
  if s.full ∨ UInt64.size ≤ next then { s with full := true } else ⟨next, s.scale - 1, false⟩

/-- The figure nearest to `10 ^ n`, for `n` up to 308. -/
def powerOfTen (n : Nat) : Binary64 := .ofNat (Nat.pow 10 n)

/-- `f` times ten to the power of `scale`, if it is finite. A negative power beyond the table is
taken in steps of 308; after four of them nothing is left of a significand below 2⁶⁴. -/
def scaleBy (f : Binary64) (scale : Int) : Nat → Option Binary64
  | 0 => some (.zero false)
  | steps + 1 =>
    if scale.natAbs ≤ 308 then
      let power := powerOfTen scale.natAbs
      if 0 ≤ scale then
        let product := f.mul power
        if product.isFinite then some product else none
      else some (f.div power)
    else if f.magnitude = 0 then some f
    else if 0 ≤ scale then none
    else scaleBy (f.div (powerOfTen 308)) (scale + 308) steps

end Significand

/-- The figure that a number is read as, unless it is beyond the range. -/
def Number.figure? (n : Number) : Option Binary64 := do
  let whole := n.whole.foldl Significand.takeWhole ⟨0, 0, false⟩
  let s := n.fraction.foldl Significand.takeFraction { whole with full := false }
  let f ← Significand.scaleBy (.ofNat s.value) (s.scale + n.exponent.getD 0) 4
  some (if n.negative then f.neg else f)

end StorageTopology.Json
