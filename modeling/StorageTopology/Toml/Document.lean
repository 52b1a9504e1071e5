import StorageTopology.Toml.Scalar
import StorageTopology.Toml.Text

/-!
# TOML documents

A document is lines, each a key and its value or the header of a table. Arrays and inline tables
may run over several lines, with comments, wherever a blank may stand outside of a key, and may
end in a comma. They may be nested to a fixed depth. `parse?` gives the entries of the outermost
table. The readers go on with what is left of the text, and their fuel is a bound on its length.
-/

namespace StorageTopology.Toml

/-- The number of arrays and inline tables that may be open at once. -/
def maxDepth : Nat := 80

mutual

/-- A value, in which `depth` more arrays and inline tables may be opened. -/
def value? (fuel depth : Nat) (cs : List Char) : Option (Value × List Char) :=
  match fuel with
  | 0 => none
  | fuel + 1 =>
    match cs with
    | '[' :: cs =>
      match depth with
      | 0 => none
      | depth + 1 => do
        let (items, rest) ← items? fuel depth [] cs
        some (.array items, rest)
    | '{' :: cs =>
      match depth with
      | 0 => none
      | depth + 1 => do
        let (entries, rest) ← inlineEntries? fuel depth [] cs
        some (.table .inline entries, rest)
    | '"' :: _ | '\'' :: _ => do
      let (s, rest) ← text? cs
      some (.text (String.ofList s), rest)
    | _ => scalar? cs

/-- The rest of an array after its bracket or a comma; `done` are the items so far, the latest
first. -/
def items? (fuel depth : Nat) (done : List Value) (cs : List Char) :
    Option (List Value × List Char) :=
  match fuel with
  | 0 => none
  | fuel + 1 => do
    match ← skipGap false cs with
    | ']' :: rest => some (done.reverse, rest)
    | cs => do
      let (v, rest) ← value? fuel depth cs
      match ← skipGap false rest with
      | ']' :: rest => some ((v :: done).reverse, rest)
      | ',' :: rest => items? fuel depth (v :: done) rest
      | _ => none

/-- The rest of an inline table after its brace or a comma. -/
def inlineEntries? (fuel depth : Nat) (done : Entries) (cs : List Char) :
    Option (Entries × List Char) :=
  match fuel with
  | 0 => none
  | fuel + 1 => do
    match ← skipGap false cs with
    | '}' :: rest => some (done, rest)
    | cs => do
      let (path, rest) ← key? cs
      match ← skipGap false rest with
      | '=' :: rest => do
        let (v, rest) ← value? fuel depth (← skipGap false rest)
        let entries ← done.assign? path v
        match ← skipGap false rest with
        | '}' :: rest => some (entries, rest)
        | ',' :: rest => inlineEntries? fuel depth entries rest
        | _ => none
      | _ => none

end

/-- A document between two lines: all entries, and the path of the table that is open. -/
structure Document where
  entries : Entries
  current : List String

namespace Document

/-- Read a line that starts with a bracket, from after it. -/
def header? (d : Document) (cs : List Char) : Option (Document × List Char) :=
  match cs with
  | '[' :: cs => do
    let (path, rest) ← key? cs
    match rest with
    | ']' :: ']' :: rest => do
      let entries ← d.entries.openItem? path
      let rest ← skipLineEnd rest
      some (⟨entries, path⟩, rest)
    | _ => none
  | cs => do
    let (path, rest) ← key? cs
    match rest with
    | ']' :: rest => do
      let entries ← d.entries.openTable? path
      let rest ← skipLineEnd rest
      some (⟨entries, path⟩, rest)
    | _ => none

/-- Read a line that starts with a key. -/
def entry? (d : Document) (cs : List Char) : Option (Document × List Char) := do
  let (path, rest) ← key? cs
  match rest with
  | '=' :: rest => do
    let (v, rest) ← value? (2 * rest.length + 2) maxDepth (skipLineBlanks rest)
    let rest ← skipLineEnd rest
    let entries ←
      Entries.alter? .implied (fun _ es => es.assign? path v) d.current .header d.entries
    some ({ d with entries := entries }, rest)
  | _ => none

/-- Read lines until nothing is left. -/
def lines? (fuel : Nat) (d : Document) (cs : List Char) : Option Document :=
  match fuel with
  | 0 => none
  | fuel + 1 => do
    match ← skipGap false cs with
    | [] => some d
    | '[' :: cs => do
      let (d, rest) ← d.header? cs
      lines? fuel d rest
    | cs => do
      let (d, rest) ← d.entry? cs
      lines? fuel d rest

end Document

/-- The entries of a document. A byte-order mark at its start is skipped. -/
def parse? (text : String) : Option Entries :=
  let cs := text.toList
  let cs := if cs.head? = some '\ufeff' then cs.tail else cs
  (Document.lines? (cs.length + 1) ⟨[], []⟩ cs).map (·.entries)

end StorageTopology.Toml
