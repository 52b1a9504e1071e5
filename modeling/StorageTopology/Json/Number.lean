import StorageTopology.Decimal.Scientific

/-!
# JSON numbers

A number keeps the parts of its text, so that a reader can tell `1` from `1.0` and decide for
itself which of them it takes. `Number.read?` accepts exactly the JSON grammar: an optional
minus sign, whole digits without a superfluous leading zero, then a fraction and an exponent,
each with at least one digit if it is there. `int?` is the value of a number that is written as
an integer; minus zero is not, since it names a floating-point zero.
-/

namespace StorageTopology.Json

/-- The parts of a JSON number: `exponent` is `none` where the text has none. -/
structure Number where
  negative : Bool
  whole : List Char
  fraction : List Char
  exponent : Option Int
  deriving DecidableEq, Repr

namespace Number

/-- The fraction that `cs` starts with, and what follows it. -/
def fraction? (cs : List Char) : Option (List Char × List Char) :=
  if cs.head? = some '.' then
    let digits := cs.tail.takeWhile Char.isDigit
    if digits.isEmpty then none else some (digits, cs.tail.dropWhile Char.isDigit)
  else some ([], cs)

/-- The number that `cs` writes. -/
def read? (cs : List Char) : Option Number := do
  let negative := cs.head? = some '-'
  let body := if negative then cs.tail else cs
  let whole := body.takeWhile Char.isDigit
  if whole.isEmpty || (whole.head? = some '0' && whole.length ≠ 1) then none
  else
    let (fraction, tail) ← fraction? (body.dropWhile Char.isDigit)
    if tail.isEmpty then some ⟨negative, whole, fraction, none⟩
    else
      let exponent ← Scientific.exponent? tail
      some ⟨negative, whole, fraction, some exponent⟩

/-- The text of a number. -/
def write (n : Number) : List Char :=
  (if n.negative then ['-'] else []) ++ n.whole
    ++ (if n.fraction.isEmpty then [] else '.' :: n.fraction)
    ++ (match n.exponent with
        | none => []
        | some e => 'e' :: (toString e).toList)

/-- The number that writes `n`. -/
def ofNat (n : Nat) : Number :=
  ⟨false, Nat.toDigits 10 n, [], none⟩

/-- The number that writes `i`. -/
def ofInt (i : Int) : Number :=
  ⟨decide (i < 0), Nat.toDigits 10 i.natAbs, [], none⟩

/-- The value of a number that is written as an integer. -/
def int? (n : Number) : Option Int :=
  let value : Int := Nat.ofDigitChars 10 n.whole 0
  if !n.fraction.isEmpty || n.exponent.isSome || (n.negative && value = 0) then none
  else some (if n.negative then -value else value)

end Number

end StorageTopology.Json
