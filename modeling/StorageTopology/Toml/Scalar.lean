import StorageTopology.Toml.Text
import StorageTopology.Toml.Value

/-!
# TOML numbers, booleans and points in time

`scalar?` reads a value that has no delimiters of its own: it is all words up to a character that
separates or encloses values, with the blanks between them. Digits may be grouped by single
underscores. Points in time are a date, a time, or both, with an optional offset after both;
seconds may be left out.
-/

namespace StorageTopology.Toml

/-- One or more digits. -/
def isDigits (cs : List Char) : Bool := !cs.isEmpty && cs.all Char.isDigit

/-- A decimal number without sign and underscores that has a fraction, an exponent or both. -/
def isUnsignedFloat (cs : List Char) : Bool :=
  let isExponentMark := fun c => c = 'e' || c = 'E'
  let mantissa := cs.takeWhile fun c => !isExponentMark c
  let exponent := cs.drop mantissa.length
  let whole := mantissa.takeWhile (· ≠ '.')
  let fraction := mantissa.drop whole.length
  isDigits whole && (fraction.isEmpty || isDigits fraction.tail)
    && (exponent.isEmpty || isDigits (splitSign exponent.tail).2)
    && !(fraction.isEmpty && exponent.isEmpty)

/-- Whether `cs` is a decimal number with a fraction, an exponent or both, or the name of an
infinity or of no number. -/
def isFloat (cs : List Char) : Bool :=
  let body := (splitSign cs).2
  body = "inf".toList || body = "nan".toList ||
    (hasNoLeadingZero (body.takeWhile fun c => c.isDigit || c = '_')
      && (ungroup? Char.isDigit false body).any isUnsignedFloat)

/-! ## Points in time -/

/-- A decimal number of exactly `width` digits. -/
def digitsOf? (width : Nat) (cs : List Char) : Option (Nat × List Char) :=
  let digits := cs.take width
  if digits.length = width ∧ digits.all Char.isDigit then
    some (Nat.ofDigitChars 10 digits 0, cs.drop width)
  else none

/-- What is left after `c`. -/
def skipChar (c : Char) (cs : List Char) : Option (List Char) :=
  if cs.head? = some c then some cs.tail else none

/-- The number of days of a month. -/
def daysOf (year month : Nat) : Nat :=
  if month = 2 then
    if (year % 4 = 0 ∧ year % 100 ≠ 0) ∨ year % 400 = 0 then 29 else 28
  else if month = 4 ∨ month = 6 ∨ month = 9 ∨ month = 11 then 30
  else 31

/-- What is left after a date. -/
def skipDate (cs : List Char) : Option (List Char) := do
  let (year, cs) ← digitsOf? 4 cs
  let cs ← skipChar '-' cs
  let (month, cs) ← digitsOf? 2 cs
  let cs ← skipChar '-' cs
  let (day, cs) ← digitsOf? 2 cs
  if 1 ≤ month ∧ month ≤ 12 ∧ 1 ≤ day ∧ day ≤ daysOf year month then some cs else none

/-- What is left after the seconds of a time, which may have a fraction or be missing. -/
def skipSeconds (cs : List Char) : Option (List Char) :=
  match cs with
  | ':' :: cs => do
    let (second, cs) ← digitsOf? 2 cs
    if 60 < second then none
    else
      match cs with
      | '.' :: cs =>
        let rest := cs.dropWhile Char.isDigit
        if rest.length = cs.length then none else some rest
      | cs => some cs
  | cs => some cs

/-- What is left after a time. -/
def skipTime (cs : List Char) : Option (List Char) := do
  let (hour, cs) ← digitsOf? 2 cs
  let cs ← skipChar ':' cs
  let (minute, cs) ← digitsOf? 2 cs
  if hour ≤ 23 ∧ minute ≤ 59 then skipSeconds cs else none

/-- Whether `cs` is an offset or nothing. -/
def isOffset (cs : List Char) : Bool :=
  match cs with
  | [] => true
  | ['Z'] => true
  | ['z'] => true
  | sign :: cs =>
    let rest : Option (List Char) := do
      let (hour, cs) ← digitsOf? 2 cs
      let cs ← skipChar ':' cs
      let (minute, cs) ← digitsOf? 2 cs
      if hour ≤ 23 ∧ minute ≤ 59 then some cs else none
    (sign = '+' || sign = '-') && rest.any List.isEmpty

/-- Whether `cs` is a point in time. -/
def isMoment (cs : List Char) : Bool :=
  match skipDate cs with
  | some [] => true
  | some (c :: rest) =>
    (c = 'T' || c = 't' || c = ' ') && (skipTime rest).any isOffset
  | none => skipTime cs = some []

/-! ## Scalars -/

/-- A character of a scalar: any but those that separate or enclose values. -/
def isScalarChar (c : Char) : Bool := c ∉ "=,[]\x7b\x7d \t#\r\n".toList

/-- A word of a scalar follows after blanks. -/
def wordFollows (cs : List Char) : Bool :=
  (skipLineBlanks cs).head?.any fun c => isScalarChar c && c ∉ ['.', '"', '\'']

/-- The characters of a scalar at the start of `cs`. Blanks belong to it if another word follows,
as the time after a date does. -/
def scalarLexeme : List Char → List Char
  | [] => []
  | c :: cs =>
    if isScalarChar c || (isLineBlank c && wordFollows cs) then c :: scalarLexeme cs else []

/-- A value without delimiters, and what is left. -/
def scalar? (cs : List Char) : Option (Value × List Char) :=
  let lexeme := scalarLexeme cs
  let rest := cs.drop lexeme.length
  let text := String.ofList lexeme
  if text = "true" then some (.boolean true, rest)
  else if text = "false" then some (.boolean false, rest)
  else
    match numeral? lexeme with
    | some n => some (.integer n, rest)
    | none =>
      if isFloat lexeme then some (.float text, rest)
      else if isMoment lexeme then some (.moment text, rest)
      else none

end StorageTopology.Toml
