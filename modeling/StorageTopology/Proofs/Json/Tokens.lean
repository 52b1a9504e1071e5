import StorageTopology.Json.Parse

/-!
# The tokens of a value

`Value.tokens` are the tokens that write a value; there is one way to do so.

* `foldlM_step_tokens`: where a value may stand, the parser reads the tokens of a value and hands
  the value to the container that is open. The proof follows the value, its items and its members.
* `ofTokens?_tokens`: **so the parser gives a value back**, whatever its nesting.
-/

namespace StorageTopology.Json

namespace Value

mutual

/-- The tokens that write a value. -/
def tokens : Value → List Token
  | .null => [.null]
  | .bool b => [.bool b]
  | .number n => [.number n]
  | .text s => [.text s]
  | .array items => .openArray :: (itemTokens items ++ [.closeArray])
  | .object members => .openObject :: (memberTokens members ++ [.closeObject])

/-- Items and the commas between them. -/
def itemTokens : List Value → List Token
  | [] => []
  | [v] => v.tokens
  | v :: w :: vs => v.tokens ++ .comma :: itemTokens (w :: vs)

/-- Members and the commas between them. -/
def memberTokens : List (Option String × Value) → List Token
  | [] => []
  | [(k, v)] => .text k :: .colon :: v.tokens
  | (k, v) :: m :: ms => .text k :: .colon :: (v.tokens ++ .comma :: memberTokens (m :: ms))

end

end Value

/-! ## The parser, token by token -/

/-- Where a value may stand: the parser expects one, or else the end of the list. -/
def Expected.TakesValue (e : Expected) : Prop := e = .value ∨ e = .valueOrClose

/-- Where a member may stand. -/
def Expected.TakesMember (e : Expected) : Prop := e = .key ∨ e = .keyOrClose

namespace Parser

/-- What starts a value is read in the same way where the list may end instead. -/
theorem step_of_takesValue {e : Expected} (he : e.TakesValue) (stack : List Frame) {t : Token}
    (ht : t ≠ .closeArray) : step ⟨e, stack⟩ t = beginValue stack t := by
  rcases he with rfl | rfl
  · rfl
  · exact if_neg ht

theorem step_of_takesMember {e : Expected} (he : e.TakesMember) (key : Option String)
    (members : List (Option String × Value)) (stack : List Frame) :
    step ⟨e, .object members :: stack⟩ (.text key) =
      some ⟨.colon, .member members key :: stack⟩ := by
  rcases he with rfl | rfl <;> rfl

variable (stack : List Frame) (items : List Value) (members : List (Option String × Value))

@[simp] theorem step_colon : step ⟨.colon, stack⟩ .colon = some ⟨.value, stack⟩ := rfl

@[simp] theorem step_comma_array :
    step ⟨.separator, .array items :: stack⟩ .comma = some ⟨.value, .array items :: stack⟩ := rfl

@[simp] theorem step_comma_object :
    step ⟨.separator, .object members :: stack⟩ .comma =
      some ⟨.key, .object members :: stack⟩ := rfl

@[simp] theorem step_closeArray :
    step ⟨.separator, .array items :: stack⟩ .closeArray = deliver (.array items.reverse) stack :=
  rfl

@[simp] theorem step_closeArray_empty :
    step ⟨.valueOrClose, .array [] :: stack⟩ .closeArray = deliver (.array []) stack := rfl

@[simp] theorem step_closeObject :
    step ⟨.separator, .object members :: stack⟩ .closeObject =
      deliver (.object members.reverse) stack := rfl

@[simp] theorem step_closeObject_empty :
    step ⟨.keyOrClose, .object [] :: stack⟩ .closeObject = deliver (.object []) stack := rfl

end Parser

/-! ## Whole values -/

namespace Value

mutual

/-- **The tokens of a value are read as the value**, which goes to the innermost open container. -/
theorem foldlM_step_tokens : ∀ (v : Value) {e : Expected}, e.TakesValue → ∀ stack : List Frame,
    v.tokens.foldlM Parser.step ⟨e, stack⟩ = Parser.deliver v stack
  | .null, e, he, stack | .bool _, e, he, stack | .number _, e, he, stack
  | .text _, e, he, stack => by
    simp [tokens, Parser.step_of_takesValue he, Parser.beginValue]
  | .array [], e, he, stack => by
    simp [tokens, itemTokens, Parser.step_of_takesValue he, Parser.beginValue]
  | .array (v :: vs), e, he, stack => by
    have hitems := foldlM_step_itemTokens (v :: vs) nofun (.inr rfl) [] stack
    simp [tokens, Parser.step_of_takesValue he, Parser.beginValue, hitems]
  | .object [], e, he, stack => by
    simp [tokens, memberTokens, Parser.step_of_takesValue he, Parser.beginValue]
  | .object (m :: ms), e, he, stack => by
    have hmembers := foldlM_step_memberTokens (m :: ms) nofun (.inr rfl) [] stack
    simp [tokens, Parser.step_of_takesValue he, Parser.beginValue, hmembers]

/-- Items join those that are there already. -/
theorem foldlM_step_itemTokens : ∀ vs : List Value, vs ≠ [] → ∀ {e : Expected}, e.TakesValue →
    ∀ (items : List Value) (stack : List Frame),
      (itemTokens vs).foldlM Parser.step ⟨e, .array items :: stack⟩ =
        some ⟨.separator, .array (vs.reverse ++ items) :: stack⟩
  | [v], _, e, he, items, stack => by
    simp [itemTokens, foldlM_step_tokens v he, Parser.deliver]
  | v :: w :: vs, _, e, he, items, stack => by
    have hrest := foldlM_step_itemTokens (w :: vs) nofun (.inl rfl) (v :: items) stack
    simp [itemTokens, foldlM_step_tokens v he, Parser.deliver, hrest]

/-- Members join those that are there already. -/
theorem foldlM_step_memberTokens : ∀ ms : List (Option String × Value), ms ≠ [] →
    ∀ {e : Expected}, e.TakesMember →
    ∀ (members : List (Option String × Value)) (stack : List Frame),
      (memberTokens ms).foldlM Parser.step ⟨e, .object members :: stack⟩ =
        some ⟨.separator, .object (ms.reverse ++ members) :: stack⟩
  | [(k, v)], _, e, he, members, stack => by
    have hvalue := foldlM_step_tokens v (.inl rfl) (.member members k :: stack)
    simp [memberTokens, Parser.step_of_takesMember he, hvalue, Parser.deliver]
  | (k, v) :: m :: ms, _, e, he, members, stack => by
    have hvalue := foldlM_step_tokens v (.inl rfl) (.member members k :: stack)
    have hrest := foldlM_step_memberTokens (m :: ms) nofun (.inl rfl) ((k, v) :: members) stack
    simp [memberTokens, Parser.step_of_takesMember he, hvalue, Parser.deliver, hrest]

end

/-- **The parser gives a value back from its tokens.** -/
theorem ofTokens?_tokens (v : Value) : ofTokens? v.tokens = some v := by
  simp [ofTokens?, foldlM_step_tokens v (.inl rfl), Parser.deliver, Parser.finish]

end Value

end StorageTopology.Json
