import StorageTopology.Toml.Numeral

/-!
# TOML strings, keys and blanks

A basic string has escapes and stands between double quotes, a literal string has none and
stands between single quotes; each has a form on one line and a form on several lines between
three quotes, which starts after an immediate line break and may end in up to two quotes of its
own. Every reader takes the characters that are left and gives what it read and what is left
after it.
-/

namespace StorageTopology.Toml

/-- A character that strings and comments may hold as it is: no control character but the tab. -/
def isTextChar (c : Char) : Bool :=
  c = '\t' || (0x20 ≤ c.toNat && c.toNat ≠ 0x7f)

/-- A blank within a line. -/
def isLineBlank (c : Char) : Bool := c = ' ' || c = '\t'

/-- What is left after blanks within a line. -/
def skipLineBlanks (cs : List Char) : List Char := cs.dropWhile isLineBlank

/-- What is left after blanks, line breaks and comments; `inComment` inside a comment. -/
def skipGap (inComment : Bool) : List Char → Option (List Char)
  | [] => some []
  | '\r' :: '\n' :: cs => skipGap false cs
  | c :: cs =>
    if c = '\n' then skipGap false cs
    else if inComment then if isTextChar c then skipGap true cs else none
    else if isLineBlank c then skipGap false cs
    else if c = '#' then skipGap true cs
    else some (c :: cs)

/-- What is left after the end of a line, before which only blanks and a comment may stand. -/
def skipLineEnd (cs : List Char) : Option (List Char) :=
  let rest := skipLineBlanks cs
  let rest := if rest.head? = some '#' then rest.dropWhile isTextChar else rest
  match rest with
  | [] => some []
  | '\n' :: cs => some cs
  | '\r' :: '\n' :: cs => some cs
  | _ => none

/-! ## Strings -/

/-- The value of a hexadecimal digit. -/
def hexDigit? (c : Char) : Option Nat :=
  if isDigitOf 16 c then some (digitValue c) else none

/-- The character with a code point, which must not be a surrogate. -/
def charOfCode? (n : Nat) : Option Char :=
  if n.isValidChar then some (Char.ofNat n) else none

/-- The character that a backslash and a letter stand for. -/
def escape? (c : Char) : Option Char :=
  if c = '"' ∨ c = '\\' then some c
  else if c = 'b' then some '\x08'
  else if c = 't' then some '\t'
  else if c = 'n' then some '\n'
  else if c = 'f' then some '\x0c'
  else if c = 'r' then some '\r'
  else if c = 'e' then some '\x1b'
  else none

/-- How many hexadecimal digits follow a letter after a backslash. -/
def codeLength? (c : Char) : Option Nat :=
  if c = 'x' then some 2 else if c = 'u' then some 4 else if c = 'U' then some 8 else none

/-- What the reader of a basic string is inside of. `fold` is a line break taken out by a
backslash: `false` until the break has come. -/
inductive Mode where
  | plain
  | escape
  | code (missing value : Nat)
  | fold (broken : Bool)

/-- Read one character of an escape: the mode after it and the characters read so far, the latest
first. -/
def escapeStep (mode : Mode) (done : List Char) (c : Char) : Option (Mode × List Char) :=
  match mode with
  | .escape =>
    match codeLength? c with
    | some n => some (.code n 0, done)
    | none => (escape? c).map fun e => (.plain, e :: done)
  | .code missing value => do
    let d ← hexDigit? c
    let value := value * 16 + d
    if missing ≤ 1 then
      let e ← charOfCode? value
      some (.plain, e :: done)
    else some (.code (missing - 1) value, done)
  | _ => none

/-- The rest of a basic string on one line. -/
def basicLine (mode : Mode) (done : List Char) : List Char → Option (List Char × List Char)
  | [] => none
  | c :: cs =>
    match mode with
    | .plain =>
      if c = '"' then some (done.reverse, cs)
      else if c = '\\' then basicLine .escape done cs
      else if isTextChar c then basicLine .plain (c :: done) cs
      else none
    | mode =>
      match escapeStep mode done c with
      | some (mode, done) => basicLine mode done cs
      | none => none

/-- The end of a string on several lines, after its three quotes: up to two more belong to the
string. -/
def closeBlock (quote : Char) (done cs : List Char) : List Char × List Char :=
  let extra := (cs.takeWhile (· = quote)).take 2
  (done.reverse ++ extra, cs.drop extra.length)

/-- The rest of a basic string on several lines. -/
def basicBlock (mode : Mode) (done : List Char) : List Char → Option (List Char × List Char)
  | [] => none
  | c :: cs =>
    match mode with
    | .plain =>
      if c = '"' then
        if ['"', '"'].isPrefixOf cs then some (closeBlock '"' done (cs.drop 2))
        else basicBlock .plain (c :: done) cs
      else if c = '\\' then
        if cs.head?.any fun d => isLineBlank d || d = '\n' || d = '\r' then
          basicBlock (.fold false) done cs
        else basicBlock .escape done cs
      else if isTextChar c ∨ c = '\n' ∨ (c = '\r' ∧ cs.head? = some '\n') then
        basicBlock .plain (c :: done) cs
      else none
    | .fold broken =>
      if c = '\n' then
        if cs.head?.any fun d => isLineBlank d || d = '\n' || d = '\r' then
          basicBlock (.fold true) done cs
        else basicBlock .plain done cs
      else if isLineBlank c ∨ (c = '\r' ∧ cs.head? = some '\n') then
        if broken ∧ !(cs.head?.any fun d => isLineBlank d || d = '\n' || d = '\r') then
          basicBlock .plain done cs
        else basicBlock (.fold broken) done cs
      else none
    | mode =>
      match escapeStep mode done c with
      | some (mode, done) => basicBlock mode done cs
      | none => none

/-- The rest of a literal string on one line. -/
def literalLine (cs : List Char) : Option (List Char × List Char) :=
  let body := cs.takeWhile fun c => isTextChar c && c ≠ '\''
  let rest := cs.drop body.length
  if rest.head? = some '\'' then some (body, rest.tail) else none

/-- The rest of a literal string on several lines. -/
def literalBlock (done : List Char) : List Char → Option (List Char × List Char)
  | [] => none
  | c :: cs =>
    if c = '\'' ∧ ['\'', '\''].isPrefixOf cs then some (closeBlock '\'' done (cs.drop 2))
    else if isTextChar c ∨ c = '\n' ∨ (c = '\r' ∧ cs.head? = some '\n') then
      literalBlock (c :: done) cs
    else none

/-- What is left after a line break at the very start of a string on several lines. -/
def skipFirstBreak : List Char → List Char
  | '\n' :: cs => cs
  | '\r' :: '\n' :: cs => cs
  | cs => cs

/-- A string on one line. -/
def lineText? : List Char → Option (List Char × List Char)
  | '"' :: cs => basicLine .plain [] cs
  | '\'' :: cs => literalLine cs
  | _ => none

/-- A string in any of its forms. -/
def text? : List Char → Option (List Char × List Char)
  | '"' :: '"' :: '"' :: cs => basicBlock .plain [] (skipFirstBreak cs)
  | '\'' :: '\'' :: '\'' :: cs => literalBlock [] (skipFirstBreak cs)
  | cs => lineText? cs

/-! ## Keys -/

/-- A character of a key without quotes. -/
def isBareKeyChar (c : Char) : Bool := c.isAlphanum || c = '_' || c = '-'

/-- One part of a key. -/
def keyPart? (cs : List Char) : Option (List Char × List Char) :=
  match lineText? cs with
  | some r => some r
  | none =>
    let part := cs.takeWhile isBareKeyChar
    if part.isEmpty then none else some (part, cs.drop part.length)

/-- A key of at most `limit` parts with points between them. -/
def keyWithin? (limit : Nat) (cs : List Char) : Option (List String × List Char) :=
  match limit with
  | 0 => none
  | limit + 1 => do
    let (part, rest) ← keyPart? (skipLineBlanks cs)
    match skipLineBlanks rest with
    | '.' :: rest => do
      let (parts, rest) ← keyWithin? limit rest
      some (String.ofList part :: parts, rest)
    | rest => some ([String.ofList part], rest)

/-- The greatest number of parts of a key. -/
def maxKeyParts : Nat := 80

/-- A key. -/
def key? (cs : List Char) : Option (List String × List Char) := keyWithin? maxKeyParts cs

end StorageTopology.Toml
