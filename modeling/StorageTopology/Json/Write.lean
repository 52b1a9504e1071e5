import StorageTopology.Json.Value

/-!
# Writing JSON

Two forms: `compact` has no blanks; `pretty` puts every item and every member on its own line,
indented by two spaces for each container around it, and keeps an empty container on one line.
Both escape the double quote, the backslash and the control characters below U+0020, the five
common ones by a letter and the others as four hexadecimal digits, and write every other
character as it is.
-/

namespace StorageTopology.Json

/-- The form of one character inside a string. -/
def escapedChar (c : Char) : List Char :=
  if c = '"' then ['\\', '"']
  else if c = '\\' then ['\\', '\\']
  else if c = '\x08' then ['\\', 'b']
  else if c = '\x0c' then ['\\', 'f']
  else if c = '\n' then ['\\', 'n']
  else if c = '\r' then ['\\', 'r']
  else if c = '\t' then ['\\', 't']
  else if c.toNat < 0x20 then ['\\', 'u'] ++ (Nat.toDigits 16 c.toNat).leftpad 4 '0'
  else [c]

/-- A string with its quotes. One that no text has as its value is written as half a surrogate
pair. -/
def writeText : Option String → String
  | none => "\"\\ud800\""
  | some s => String.ofList ('"' :: s.toList.flatMap escapedChar ++ ['"'])

namespace Value

mutual

/-- A value without blanks. -/
def compact : Value → String
  | .null => "null"
  | .bool true => "true"
  | .bool false => "false"
  | .number n => String.ofList n.write
  | .text s => writeText s
  | .array items => "[" ++ compactItems items ++ "]"
  | .object members => "\x7b" ++ compactMembers members ++ "\x7d"

/-- Items and the commas between them. -/
def compactItems : List Value → String
  | [] => ""
  | [v] => compact v
  | v :: w :: vs => compact v ++ "," ++ compactItems (w :: vs)

/-- Members and the commas between them. -/
def compactMembers : List (Option String × Value) → String
  | [] => ""
  | [(k, v)] => writeText k ++ ":" ++ compact v
  | (k, v) :: m :: ms => writeText k ++ ":" ++ compact v ++ "," ++ compactMembers (m :: ms)

end

/-- A new line at the given depth. -/
def newline (depth : Nat) : String :=
  String.ofList ('\n' :: List.replicate (2 * depth) ' ')

mutual

/-- A value inside `depth` containers, on several lines. -/
def prettyAt (depth : Nat) : Value → String
  | .array [] => "[]"
  | .array (v :: vs) => "[" ++ prettyItems (depth + 1) (v :: vs) ++ newline depth ++ "]"
  | .object [] => "\x7b\x7d"
  | .object (m :: ms) => "\x7b" ++ prettyMembers (depth + 1) (m :: ms) ++ newline depth ++ "\x7d"
  | .null => "null"
  | .bool true => "true"
  | .bool false => "false"
  | .number n => String.ofList n.write
  | .text s => writeText s

/-- Items, each on a line of its own. -/
def prettyItems (depth : Nat) : List Value → String
  | [] => ""
  | [v] => newline depth ++ prettyAt depth v
  | v :: w :: vs => newline depth ++ prettyAt depth v ++ "," ++ prettyItems depth (w :: vs)

/-- Members, each on a line of its own. -/
def prettyMembers (depth : Nat) : List (Option String × Value) → String
  | [] => ""
  | [(k, v)] => newline depth ++ writeText k ++ ": " ++ prettyAt depth v
  | (k, v) :: m :: ms =>
    newline depth ++ writeText k ++ ": " ++ prettyAt depth v ++ "," ++ prettyMembers depth (m :: ms)

end

/-- A value on several lines. -/
def pretty (v : Value) : String := prettyAt 0 v

end Value

end StorageTopology.Json
