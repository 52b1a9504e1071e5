import StorageTopology.Json.Token

/-!
# Reading JSON

`Value.ofTokens?` builds a value from tokens with a stack of the containers that are open, so
the nesting of a text has no limit here; a reader that limits it counts on its own. A text is
one value with nothing after it.
-/

namespace StorageTopology.Json

/-- An open container. Its finished parts are held the latest first; `member` waits for the
value of `key`. -/
inductive Frame where
  | array (items : List Value)
  | object (members : List (Option String × Value))
  | member (members : List (Option String × Value)) (key : Option String)

/-- What may come next. -/
inductive Expected where
  | value
  | valueOrClose
  | keyOrClose
  | key
  | colon
  | separator
  | nothing (v : Value)

/-- The parser between two tokens: what may come next, and the open containers, the innermost
first. -/
structure Parser where
  expected : Expected
  stack : List Frame

namespace Parser

/-- Hand a finished value to the innermost open container. -/
def deliver (v : Value) : List Frame → Option Parser
  | [] => some ⟨.nothing v, []⟩
  | .array items :: rest => some ⟨.separator, .array (v :: items) :: rest⟩
  | .member members key :: rest => some ⟨.separator, .object ((key, v) :: members) :: rest⟩
  | .object _ :: _ => none

/-- Read the first token of a value. -/
def beginValue (stack : List Frame) : Token → Option Parser
  | .null => deliver .null stack
  | .bool b => deliver (.bool b) stack
  | .number n => deliver (.number n) stack
  | .text s => deliver (.text s) stack
  | .openArray => some ⟨.valueOrClose, .array [] :: stack⟩
  | .openObject => some ⟨.keyOrClose, .object [] :: stack⟩
  | _ => none

/-- Read the name of a member. -/
def beginMember : List Frame → Token → Option Parser
  | .object members :: rest, .text key => some ⟨.colon, .member members key :: rest⟩
  | _, _ => none

/-- Read a token that ends the innermost container. -/
def close : List Frame → Token → Option Parser
  | .array items :: rest, .closeArray => deliver (.array items.reverse) rest
  | .object members :: rest, .closeObject => deliver (.object members.reverse) rest
  | _, _ => none

/-- Read one token. -/
def step (p : Parser) (t : Token) : Option Parser :=
  match p.expected with
  | .value => beginValue p.stack t
  | .valueOrClose => if t = .closeArray then close p.stack t else beginValue p.stack t
  | .keyOrClose => if t = .closeObject then close p.stack t else beginMember p.stack t
  | .key => beginMember p.stack t
  | .colon => if t = .colon then some ⟨.value, p.stack⟩ else none
  | .separator =>
    if t = .comma then
      match p.stack with
      | .array _ :: _ => some ⟨.value, p.stack⟩
      | .object _ :: _ => some ⟨.key, p.stack⟩
      | _ => none
    else close p.stack t
  | .nothing _ => none

/-- The value at the end of the tokens. -/
def finish (p : Parser) : Option Value :=
  match p.expected with
  | .nothing v => some v
  | _ => none

end Parser

namespace Value

/-- The value that `tokens` write. -/
def ofTokens? (tokens : List Token) : Option Value := do
  let p ← tokens.foldlM Parser.step ⟨.value, []⟩
  p.finish

/-- The value that a text writes. -/
def parse? (s : String) : Option Value := do
  let tokens ← scan s.toList
  ofTokens? tokens

end Value

end StorageTopology.Json
