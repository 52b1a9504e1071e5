/-!
# TOML integers

An integer is read in two steps. Reading a document settles where an integer ends, which base it
has, and that its underscores stand between digits; `numeral?` does that. Its value is computed
only when it is asked for, by `Numeral.value?`, and only then must all its characters be digits
of its base. So `0x` and `1_az` are integers without a value, which does no harm where nobody
asks.
-/

namespace StorageTopology.Toml

/-- An integer as it is written: its base, and its characters with the sign, but without the mark
of the base and without underscores. -/
structure Numeral where
  base : Nat
  lexeme : List Char
  deriving DecidableEq, Repr, Inhabited

/-- The value of a digit up to 15. -/
def digitValue (c : Char) : Nat :=
  if c.isDigit then c.toNat - '0'.toNat
  else if 'a' ≤ c then c.toNat - 'a'.toNat + 10
  else c.toNat - 'A'.toNat + 10

/-- A digit of the given base, at most 16. -/
def isDigitOf (base : Nat) (c : Char) : Bool :=
  (c.isDigit || ('a' ≤ c && c ≤ 'f') || ('A' ≤ c && c ≤ 'F')) && digitValue c < base

/-- An optional sign, and what is left. -/
def splitSign (cs : List Char) : List Char × List Char :=
  match cs with
  | '-' :: cs => (['-'], cs)
  | '+' :: cs => (['+'], cs)
  | cs => ([], cs)

/-- The value of an integer, if all its characters are digits of its base. -/
def Numeral.value? (n : Numeral) : Option Int :=
  let (sign, digits) := splitSign n.lexeme
  let value := digits.foldl (fun v c => v * n.base + digitValue c) 0
  if digits.isEmpty || !digits.all (isDigitOf n.base) then none
  else some (if sign = ['-'] then -(value : Int) else value)

/-! ## Underscores -/

/-- The characters of `cs` without its underscores, each of which must stand between two digits;
`before` says whether a digit stands before `cs`. -/
def ungroup? (isDigit : Char → Bool) (before : Bool) : List Char → Option (List Char)
  | [] => some []
  | c :: cs =>
    if c = '_' then
      if before && cs.head?.any isDigit then ungroup? isDigit false cs else none
    else (ungroup? isDigit (isDigit c) cs).map (c :: ·)

/-- Nothing but underscores is taken out. -/
theorem eq_filter_of_ungroup? {isDigit : Char → Bool} {before : Bool} {cs ds : List Char}
    (h : ungroup? isDigit before cs = some ds) : ds = cs.filter (· ≠ '_') := by
  induction cs generalizing before ds with
  | nil => simpa [ungroup?] using h.symm
  | cons c cs ih =>
    unfold ungroup? at h
    split at h
    · rename_i hc
      split at h
      · simpa [hc] using ih h
      · simp at h
    · rename_i hc
      obtain ⟨rest, hrest, rfl⟩ := Option.map_eq_some_iff.mp h
      simpa [hc] using ih hrest

/-- No zero stands before another digit. -/
def hasNoLeadingZero (digits : List Char) : Bool :=
  digits.head? ≠ some '0' || digits.length = 1

/-! ## Reading -/

/-- The base that a letter after a zero stands for. -/
def base? (c : Char) : Option Nat :=
  if c = 'x' then some 16 else if c = 'o' then some 8 else if c = 'b' then some 2 else none

/-- A character that no integer holds: those of a fraction or an exponent, and the space. -/
def isForeign (c : Char) : Bool := c = '.' || c = 'e' || c = 'E' || c = ' '

/-- A decimal integer: a sign, and digits, which go on after the first underscore with any
characters that an integer may hold. -/
def decimal? (cs : List Char) : Option Numeral :=
  let (sign, body) := splitSign cs
  let rest := body.dropWhile Char.isDigit
  if body.head?.any Char.isDigit && hasNoLeadingZero body
      && (rest.isEmpty || rest.head? = some '_') && !rest.any isForeign then
    (ungroup? (isDigitOf 16) false body).map fun digits => ⟨10, sign ++ digits⟩
  else none

/-- An integer with the mark of its base taken off: only digits and underscores. -/
def marked? (base : Nat) (cs : List Char) : Option Numeral :=
  if cs.all fun c => c = '_' || isDigitOf base c then
    (ungroup? (isDigitOf base) false cs).map fun digits => ⟨base, digits⟩
  else none

/-- An integer: decimal with an optional sign, or with the mark of its base and no sign. -/
def numeral? (cs : List Char) : Option Numeral :=
  match cs with
  | '0' :: c :: digits =>
    match base? c with
    | some base => marked? base digits
    | none => decimal? cs
  | cs => decimal? cs

end StorageTopology.Toml
