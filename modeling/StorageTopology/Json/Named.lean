import StorageTopology.Json.Record
import StorageTopology.Text.Named

/-!
# Names in JSON

An element of a finite set of names is written as its name.
-/

namespace StorageTopology.Json.Value

/-- The name of `a`. -/
def ofNamed {α : Type} [Named α] (a : α) : Value := .str (Named.name a)

/-- The element whose name stands in the value. -/
def named? {α : Type} [Named α] (v : Value) : Option α := v.name?.bind Named.ofName?

end StorageTopology.Json.Value
