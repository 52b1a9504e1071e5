import StorageTopology.Decimal.Rounding

/-!
# Binary floating point of 64 bits

A figure is the 64 bits of the IEEE 754 format: a sign, 11 bits of exponent, 52 bits of
fraction. The value of a finite figure is a whole multiple of 2⁻¹⁰⁷⁴, and `scaled` is that
multiple, so order and arithmetic are exact arithmetic on integers: `ofQuotient` takes an exact
quotient to the nearest figure (ties go to the even one), and subtraction, multiplication and
division are the exact result rounded once.
-/

namespace StorageTopology

/-- A figure, by its 64 bits. -/
structure Binary64 where
  bits : UInt64
  deriving DecidableEq, Repr, Inhabited

namespace Binary64

/-- The number of units in one: values are multiples of `1 / unit`. -/
def unit : Nat := Nat.pow 2 1074

/-- The number of fractions, which is also the weight of the leading bit. -/
def leadingBit : Nat := Nat.pow 2 52

/-- The weight of the sign bit. -/
def signBit : Nat := Nat.pow 2 63

/-- The bits of positive infinity, which are also the least magnitude that is not finite. -/
def infinityBits : Nat := 0x7ff * leadingBit

/-- The sign bit, which negative zero has too. -/
def isNegative (x : Binary64) : Bool :=
  decide (signBit ≤ x.bits.toNat)

/-- The biased exponent. -/
def exponent (x : Binary64) : Nat :=
  x.bits.toNat / leadingBit % 0x800

/-- The fraction below the leading bit. -/
def fraction (x : Binary64) : Nat :=
  x.bits.toNat % leadingBit

/-- Neither infinite nor a NaN. -/
def isFinite (x : Binary64) : Bool :=
  decide (x.exponent < 0x7ff)

/-- The absolute value of a finite figure, in units. -/
def magnitude (x : Binary64) : Nat :=
  if x.exponent = 0 then x.fraction
  else (leadingBit + x.fraction) * Nat.pow 2 (x.exponent - 1)

/-- The value of a finite figure, in units. -/
def scaled (x : Binary64) : Int :=
  if x.isNegative then -(x.magnitude : Int) else x.magnitude

/-- The figure with the given sign and magnitude bits. -/
def ofBits (negative : Bool) (magnitude : Nat) : Binary64 :=
  ⟨UInt64.ofNat (if negative then signBit + magnitude else magnitude)⟩

/-- The figure nearest to `num / den`, with the given sign. Of the units in the quotient the
leading 53 binary digits are kept; a quotient beyond the range is infinite. -/
def ofQuotient (negative : Bool) (num den : Nat) : Binary64 :=
  let units := num * unit
  let dropped := (units / den).log2 - 52
  let kept := Decimal.roundHalfEven units (den * Nat.pow 2 dropped)
  ofBits negative (min (dropped * leadingBit + kept) infinityBits)

/-- Zero with a sign. -/
def zero (negative : Bool) : Binary64 :=
  ofBits negative 0

/-- Infinity with a sign. -/
def infinity (negative : Bool) : Binary64 :=
  ofBits negative infinityBits

/-- Whether `x` is less than `y`, both finite: the two zeros are equal. -/
def lt (x y : Binary64) : Bool :=
  decide (x.scaled < y.scaled)

/-- Whether `x` comes before `y` or is `y` in the total order of finite figures, in which
negative zero comes before zero. -/
def totalLe (x y : Binary64) : Bool :=
  decide (x.scaled < y.scaled) || (decide (x.scaled = y.scaled) && (x.isNegative || !y.isNegative))

/-- The rounded difference of two finite figures. A difference of zero is positive, unless it is
negative zero less zero. -/
def sub (x y : Binary64) : Binary64 :=
  let d := x.scaled - y.scaled
  if d = 0 then zero (x.isNegative && !y.isNegative)
  else ofQuotient (decide (d < 0)) d.natAbs unit

/-- The rounded product of two finite figures that are not negative. -/
def mul (x y : Binary64) : Binary64 :=
  ofQuotient false (x.magnitude * y.magnitude) (unit * unit)

/-- The rounded quotient of two finite figures that are not negative, the second not zero. -/
def div (x y : Binary64) : Binary64 :=
  ofQuotient false x.magnitude y.magnitude

/-- The figure nearest to a whole number. -/
def ofNat (n : Nat) : Binary64 :=
  ofQuotient false n 1

/-- The figure of opposite sign. -/
def neg (x : Binary64) : Binary64 :=
  ofBits (!x.isNegative) (x.bits.toNat % signBit)

/-! ## The total order -/

theorem totalLe_total (x y : Binary64) : (x.totalLe y || y.totalLe x) = true := by
  rcases Int.lt_trichotomy x.scaled y.scaled with h | h | h
  · simp [totalLe, h]
  · cases hx : x.isNegative <;> cases hy : y.isNegative <;> simp [totalLe, h, hx, hy]
  · simp [totalLe, h]

theorem totalLe_trans {x y z : Binary64} (hxy : x.totalLe y = true) (hyz : y.totalLe z = true) :
    x.totalLe z = true := by
  simp only [totalLe, Bool.or_eq_true, Bool.and_eq_true, decide_eq_true_eq, Bool.not_eq_true'] at *
  rcases hxy with hxy | ⟨hxy, hx⟩ <;> rcases hyz with hyz | ⟨hyz, hy⟩
  · exact .inl (by omega)
  · exact .inl (by omega)
  · exact .inl (by omega)
  · exact .inr ⟨by omega, by grind⟩

theorem lt_eq_false_of_totalLe {x y : Binary64} (h : x.totalLe y = true) : y.lt x = false := by
  simp only [totalLe, lt, Bool.or_eq_true, Bool.and_eq_true, decide_eq_true_eq,
    decide_eq_false_iff_not] at *
  omega

end Binary64

end StorageTopology
