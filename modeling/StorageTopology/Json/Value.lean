import StorageTopology.Json.Number

/-!
# JSON values

The members of an object are kept in the order of the text, with repetitions. A text is `none`
if its escapes name half of a surrogate pair without the other half: such a string is well
formed as JSON, but no text has it as its value, so it is an error only for a reader that wants
the text.
-/

namespace StorageTopology.Json

/-- A JSON value. -/
inductive Value where
  | null
  | bool (b : Bool)
  | number (n : Number)
  | text (s : Option String)
  | array (items : List Value)
  | object (members : List (Option String × Value))
  deriving Repr, Inhabited

namespace Value

/-- A text. -/
def str (s : String) : Value := .text (some s)

/-- A natural number. -/
def nat (n : Nat) : Value := .number (.ofNat n)

/-- An integer. -/
def int (i : Int) : Value := .number (.ofInt i)

/-- A list of texts. -/
def strs (ss : List String) : Value := .array (ss.map str)

/-- An object with the given members. -/
def record (members : List (String × Value)) : Value :=
  .object (members.map fun m => (some m.1, m.2))

/-- A value that may be absent. -/
def option {α : Type} (write : α → Value) : Option α → Value
  | none => .null
  | some a => write a

end Value

end StorageTopology.Json
