import StorageTopology.Decimal.Binary64
import StorageTopology.Decimal.Unsigned

/-!
# Decimal texts of floating-point figures

`Scientific.read?` takes a text apart: an optional sign, digits with an optional point among or
around them (at least one digit in all), and an optional exponent, which is `e` or `E`, an
optional sign and one or more digits. Names for infinity are not figures here.
`Scientific.nearest` is the floating-point figure nearest to the exact decimal value.
-/

namespace StorageTopology

/-- The value `± digits · 10 ^ scale`. -/
structure Scientific where
  negative : Bool
  digits : List Char
  scale : Int
  deriving DecidableEq, Repr

namespace Scientific

/-- An optional sign and the characters after it. -/
def sign (cs : List Char) : Bool × List Char :=
  if cs.head? = some '-' then (true, cs.tail)
  else if cs.head? = some '+' then (false, cs.tail)
  else (false, cs)

/-- The exponent that `cs` writes; none at all is the exponent zero. -/
def exponent? : List Char → Option Int
  | [] => some 0
  | c :: cs =>
    let (negative, digits) := sign cs
    if (c = 'e' ∨ c = 'E') ∧ Decimal.isDigits digits then
      let n : Int := Nat.ofDigitChars 10 digits 0
      some (if negative then -n else n)
    else none

/-- The parts of a decimal text. -/
def read? (cs : List Char) : Option Scientific := do
  let (negative, body) := sign cs
  let whole := body.takeWhile Char.isDigit
  let rest := body.dropWhile Char.isDigit
  let (fraction, tail) :=
    if rest.head? = some '.' then
      (rest.tail.takeWhile Char.isDigit, rest.tail.dropWhile Char.isDigit)
    else ([], rest)
  if whole.isEmpty && fraction.isEmpty then none
  else
    let exponent ← exponent? tail
    some ⟨negative, whole ++ fraction, exponent - fraction.length⟩

/-- The nearest figure. A value of at least 10³¹⁰ is beyond the range of finite figures, and one
below 10⁻³³⁰ is nearest to zero, so the powers of ten that are built stay small. -/
def nearest (s : Scientific) : Binary64 :=
  let n := Nat.ofDigitChars 10 s.digits 0
  let places : Int := (Nat.toDigits 10 n).length + s.scale
  if n = 0 ∨ places < -330 then .zero s.negative
  else if 310 < places then .infinity s.negative
  else if s.scale < 0 then .ofQuotient s.negative n (Nat.pow 10 (-s.scale).toNat)
  else .ofQuotient s.negative (n * Nat.pow 10 s.scale.toNat) 1

end Scientific

end StorageTopology
