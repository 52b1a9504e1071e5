import StorageTopology.Text.Printable

/-!
# Quoted texts in messages

A message that shows a value puts it between double quotes, so that its ends are visible. The
quote and the backslash carry a backslash, the four common controls have a letter, and every
other character that is not plain is `\u` and its code point in braces, in lower-case
hexadecimal without leading zeros. The single quote stays as it is.
-/

namespace StorageTopology.Text

/-- The code point of `c` in lower-case hexadecimal. -/
def hexadecimal (c : Char) : List Char :=
  Nat.toDigits 16 c.toNat

/-- The form of one character between quotes. -/
def quotedChar (c : Char) : List Char :=
  if c = '"' then ['\\', '"']
  else if c = '\\' then ['\\', '\\']
  else if c = '\n' then ['\\', 'n']
  else if c = '\r' then ['\\', 'r']
  else if c = '\t' then ['\\', 't']
  else if c = '\x00' then ['\\', '0']
  else if isPlain c then [c]
  else ['\\', 'u', '{'] ++ hexadecimal c ++ ['}']

/-- `s` between double quotes. -/
def quoted (s : String) : String :=
  String.ofList ('"' :: s.toList.flatMap quotedChar ++ ['"'])

end StorageTopology.Text
