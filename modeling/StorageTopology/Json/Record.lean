import StorageTopology.Json.Value

/-!
# Records in JSON

A record is read from an object, in which the order is free, other members are skipped and no
field may come twice, or from an array of its fields in their order, which may leave out
optional fields at its end and may not be longer than the record.
-/

namespace StorageTopology.Json

/-- A field of a record; an `optional` one may be left out of the array form. -/
structure Field where
  name : String
  optional : Bool

/-- A field that the array form has to have. -/
def field (name : String) : Field := ⟨name, false⟩

/-- A field that the array form may leave out. -/
def optionalField (name : String) : Field := ⟨name, true⟩

/-- Pair the fields with the items of an array. -/
def byPosition : List Field → List Value → Option (List (Option Value))
  | [], [] => some []
  | [], _ :: _ => none
  | f :: fs, [] => if f.optional then (byPosition fs []).map (none :: ·) else none
  | _ :: fs, v :: vs => (byPosition fs vs).map (some v :: ·)

/-- The value of the field `f` among named members, unless it comes twice. -/
def byName (members : List (String × Value)) (f : Field) : Option (Option Value) :=
  match members.filter (·.1 = f.name) with
  | [] => some none
  | [m] => some (some m.2)
  | _ => none

namespace Value

/-- The values of `fields` in the order of `fields`, `none` for one that is not there. -/
def fields? (fields : List Field) : Value → Option (List (Option Value))
  | .object members => do
    let named ← members.mapM fun m => m.1.map (·, m.2)
    fields.mapM (byName named)
  | .array items => byPosition fields items
  | _ => none

/-! ## Reading a value -/

/-- A truth value. -/
def bool? : Value → Option Bool
  | .bool b => some b
  | _ => none

/-- A text without halves of surrogate pairs. -/
def str? : Value → Option String
  | .text s => s
  | _ => none

/-- An integer in a closed range. -/
def intIn? (lowest highest : Int) : Value → Option Int
  | .number n => n.int?.filter fun i => lowest ≤ i && i ≤ highest
  | _ => none

/-- An unsigned integer of 32 bits. -/
def word32? (v : Value) : Option UInt32 :=
  (v.intIn? 0 (UInt32.size - 1)).map fun i => UInt32.ofNat i.toNat

/-- An unsigned integer of 64 bits. -/
def word64? (v : Value) : Option UInt64 :=
  (v.intIn? 0 (UInt64.size - 1)).map fun i => UInt64.ofNat i.toNat

/-- A signed integer of 32 bits. -/
def int32? (v : Value) : Option Int32 :=
  (v.intIn? Int32.minValue.toInt Int32.maxValue.toInt).map Int32.ofInt

/-- A list of values of one kind. -/
def list? {α : Type} (read : Value → Option α) : Value → Option (List α)
  | .array items => items.mapM read
  | _ => none

/-- A value or null. -/
def nullable? {α : Type} (read : Value → Option α) : Value → Option (Option α)
  | .null => some none
  | v => (read v).map some

/-- A name out of a finite set, alone or as the one member of an object whose value is null. -/
def name? : Value → Option String
  | .text s => s
  | .object [(k, .null)] => k
  | _ => none

end Value

/-! ## Reading a field -/

/-- A field that must be there. -/
def required {α : Type} (read : Value → Option α) (v : Option Value) : Option α :=
  v.bind read

/-- A field that is absent when it is not there or null. -/
def nullable {α : Type} (read : Value → Option α) : Option Value → Option (Option α)
  | none => some none
  | some v => v.nullable? read

/-- A field that has a value when it is not there. -/
def withDefault {α : Type} (absent : α) (read : Value → Option α) : Option Value → Option α
  | none => some absent
  | some v => read v

end StorageTopology.Json
