import StorageTopology.Json.Value

/-!
# JSON tokens

`scan` cuts a text into tokens, one character at a time. Blanks are space, tab, line feed and
carriage return. A run of letters is one of the three literals; a run of characters that occur
in numbers is one number; inside a string the control characters below U+0020 must be escaped.

A string is first the list of its code units, in which an escape may give half of a surrogate
pair; `textOfUnits` joins the halves and has no answer for a half that stands alone.
-/

namespace StorageTopology.Json

/-- A token; a text is none if half of a surrogate pair stands alone in it. -/
inductive Token where
  | openArray
  | closeArray
  | openObject
  | closeObject
  | comma
  | colon
  | null
  | bool (b : Bool)
  | number (n : Number)
  | text (s : Option String)
  deriving DecidableEq, Repr

/-! ## Strings -/

/-- The first half of a surrogate pair. -/
def isHighSurrogate (u : Nat) : Bool := 0xd800 ≤ u && u ≤ 0xdbff

/-- The second half of a surrogate pair. -/
def isLowSurrogate (u : Nat) : Bool := 0xdc00 ≤ u && u ≤ 0xdfff

/-- The characters of code units read from left to right: `done` holds those read so far, the
latest first. -/
def charsOfUnits (done : List Char) : List Nat → Option (List Char)
  | [] => some done.reverse
  | u :: us =>
    if isLowSurrogate u then none
    else if isHighSurrogate u then
      match us with
      | [] => none
      | v :: vs =>
        if isLowSurrogate v then
          charsOfUnits (Char.ofNat (0x10000 + (u - 0xd800) * 0x400 + (v - 0xdc00)) :: done) vs
        else none
    else charsOfUnits (Char.ofNat u :: done) us

/-- The text with the given code units, if every half of a surrogate pair has its other half. -/
def textOfUnits (units : List Nat) : Option String :=
  (charsOfUnits [] units).map String.ofList

/-- The character that a backslash and `c` stand for. -/
def escape? (c : Char) : Option Char :=
  if c = '"' ∨ c = '\\' ∨ c = '/' then some c
  else if c = 'b' then some '\x08'
  else if c = 'f' then some '\x0c'
  else if c = 'n' then some '\n'
  else if c = 'r' then some '\r'
  else if c = 't' then some '\t'
  else none

/-- The value of a hexadecimal digit. -/
def hexDigit? (c : Char) : Option Nat :=
  if c.isDigit then some (c.toNat - '0'.toNat)
  else if 'a' ≤ c ∧ c ≤ 'f' then some (c.toNat - 'a'.toNat + 10)
  else if 'A' ≤ c ∧ c ≤ 'F' then some (c.toNat - 'A'.toNat + 10)
  else none

/-! ## Scanning -/

/-- What the scanner is inside of. Lists hold the latest element first. -/
inductive Mode where
  | between
  | word (letters : List Char)
  | number (chars : List Char)
  | text (units : List Nat)
  | escape (units : List Nat)
  | code (units : List Nat) (missing : Nat) (value : Nat)

/-- The scanner between two characters: its mode and the tokens so far, the latest first. -/
structure Scanner where
  mode : Mode
  tokens : List Token

/-- A character that occurs in numbers. -/
def isNumberChar (c : Char) : Bool :=
  c.isDigit || c = '-' || c = '+' || c = '.' || c = 'e' || c = 'E'

/-- The literal with the given letters. -/
def literal? (letters : List Char) : Option Token :=
  if letters = "null".toList then some .null
  else if letters = "true".toList then some (.bool true)
  else if letters = "false".toList then some (.bool false)
  else none

namespace Scanner

/-- Read `c` outside of words, numbers and strings. -/
def start (tokens : List Token) (c : Char) : Option Scanner :=
  if c = ' ' ∨ c = '\t' ∨ c = '\n' ∨ c = '\r' then some ⟨.between, tokens⟩
  else if c = '[' then some ⟨.between, .openArray :: tokens⟩
  else if c = ']' then some ⟨.between, .closeArray :: tokens⟩
  else if c = '{' then some ⟨.between, .openObject :: tokens⟩
  else if c = '}' then some ⟨.between, .closeObject :: tokens⟩
  else if c = ',' then some ⟨.between, .comma :: tokens⟩
  else if c = ':' then some ⟨.between, .colon :: tokens⟩
  else if c = '"' then some ⟨.text [], tokens⟩
  else if c.isDigit ∨ c = '-' then some ⟨.number [c], tokens⟩
  else if c.isAlpha then some ⟨.word [c], tokens⟩
  else none

/-- Read one character. -/
def step (s : Scanner) (c : Char) : Option Scanner :=
  match s.mode with
  | .between => start s.tokens c
  | .word letters =>
    if c.isAlpha then some ⟨.word (c :: letters), s.tokens⟩
    else do
      let t ← literal? letters.reverse
      start (t :: s.tokens) c
  | .number chars =>
    if isNumberChar c then some ⟨.number (c :: chars), s.tokens⟩
    else do
      let n ← Number.read? chars.reverse
      start (.number n :: s.tokens) c
  | .text units =>
    if c = '"' then some ⟨.between, .text (textOfUnits units.reverse) :: s.tokens⟩
    else if c = '\\' then some ⟨.escape units, s.tokens⟩
    else if c.toNat < 0x20 then none
    else some ⟨.text (c.toNat :: units), s.tokens⟩
  | .escape units =>
    if c = 'u' then some ⟨.code units 4 0, s.tokens⟩
    else do
      let e ← escape? c
      some ⟨.text (e.toNat :: units), s.tokens⟩
  | .code units missing value => do
    let d ← hexDigit? c
    let value := value * 16 + d
    if missing ≤ 1 then some ⟨.text (value :: units), s.tokens⟩
    else some ⟨.code units (missing - 1) value, s.tokens⟩

/-- The tokens at the end of the text, the latest first. -/
def finish (s : Scanner) : Option (List Token) :=
  match s.mode with
  | .between => some s.tokens
  | .word letters => (literal? letters.reverse).map (· :: s.tokens)
  | .number chars => (Number.read? chars.reverse).map (.number · :: s.tokens)
  | _ => none

end Scanner

/-- The tokens of a text. -/
def scan (cs : List Char) : Option (List Token) := do
  let s ← cs.foldlM Scanner.step ⟨.between, []⟩
  let tokens ← s.finish
  some tokens.reverse

end StorageTopology.Json
