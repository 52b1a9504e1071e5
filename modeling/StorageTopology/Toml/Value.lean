import StorageTopology.Toml.Numeral

/-!
# TOML values

A table remembers how it was written, because that decides who may add to it: a table that only
stands in the path of a header may get a header of its own, a table made by dotted keys takes
more dotted keys from the same table, and one written inline takes nothing. The last of a list of
tables takes headers and dotted keys below it.
-/

namespace StorageTopology.Toml

/-- How a table was written. -/
inductive Origin where
  | implied
  | dotted
  | header
  | inline
  deriving DecidableEq, Repr

/-- A value. Numbers and points in time are kept as they are written; `tables` is a list of tables
with one header each. -/
inductive Value where
  | text (s : String)
  | integer (n : Numeral)
  | boolean (b : Bool)
  | float (lexeme : String)
  | moment (lexeme : String)
  | array (items : List Value)
  | table (origin : Origin) (entries : List (String × Value))
  | tables (items : List (List (String × Value)))
  deriving Repr, Inhabited

/-- The entries of a table in the order of the text. -/
abbrev Entries := List (String × Value)

namespace Entries

/-- Give an existing key another value. -/
def replace (es : Entries) (key : String) (v : Value) : Entries :=
  es.map fun e => if e.1 = key then (key, v) else e

/-- Add a key that is not there yet. -/
def add? (es : Entries) (key : String) (v : Value) : Option Entries :=
  if (es.lookup key).isSome then none else some (es ++ [(key, v)])

/-- Change the table at `path` with `change`, which also learns the origin of that table. Tables
that are missing on the way are made with the origin `making`: `implied` for the path of a header
and `dotted` for a dotted key. A dotted key does not pass through tables with a header, and
nothing passes through what was written inline. In a list of tables the last one is meant. -/
def alter? (making : Origin) (change : Origin → Entries → Option Entries) :
    List String → Origin → Entries → Option Entries
  | [], origin, es => change origin es
  | key :: path, _, es =>
    match es.lookup key with
    | none => do
      let sub ← alter? making change path making []
      some (es ++ [(key, .table making sub)])
    | some (.table origin sub) =>
      if origin = .inline ∨ (making = .dotted ∧ origin = .header) then none
      else do
        let sub ← alter? making change path origin sub
        some (es.replace key (.table origin sub))
    | some (.tables items) => do
      let last ← alter? making change path .header (items.getLast?.getD [])
      some (es.replace key (.tables (items.dropLast ++ [last])))
    | some _ => none

/-- Give the dotted key `path` a value. All tables of the path but the outermost must be made by
dotted keys. -/
def assign? (es : Entries) (path : List String) (v : Value) : Option Entries := do
  let key ← path.getLast?
  let change := fun origin (es : Entries) =>
    if path.length ≠ 1 ∧ origin ≠ .dotted then none else es.add? key v
  alter? .dotted change path.dropLast .header es

/-- Give the table at `path` its header. -/
def openTable? (es : Entries) (path : List String) : Option Entries := do
  let key ← path.getLast?
  let change := fun _ (es : Entries) =>
    match es.lookup key with
    | none => some (es ++ [(key, .table .header [])])
    | some (.table .implied sub) => some (es.replace key (.table .header sub))
    | some _ => none
  alter? .implied change path.dropLast .header es

/-- Add a table to the list of tables at `path`. -/
def openItem? (es : Entries) (path : List String) : Option Entries := do
  let key ← path.getLast?
  let change := fun _ (es : Entries) =>
    match es.lookup key with
    | none => some (es ++ [(key, .tables [[]])])
    | some (.tables items) => some (es.replace key (.tables (items ++ [[]])))
    | some _ => none
  alter? .implied change path.dropLast .header es

end Entries

end StorageTopology.Toml
