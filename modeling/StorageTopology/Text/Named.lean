/-!
# Finite sets of names

Record files and settings write a choice out of a few by a fixed name. `Named` lists the choices
and their names, all different, and `Named.ofName?` is the choice with a given name.
-/

namespace StorageTopology

/-- A finite type whose elements have names, by which they are found. -/
class Named (α : Type) where
  all : List α
  name : α → String
  find?_name (a : α) : all.find? (fun b => name b = name a) = some a

/-- The element called `s`. -/
def Named.ofName? {α : Type} [Named α] (s : String) : Option α :=
  (all : List α).find? fun a => name a = s

theorem Named.ofName?_name {α : Type} [Named α] (a : α) : Named.ofName? (Named.name a) = some a :=
  find?_name a

theorem Named.name_of_ofName? {α : Type} [Named α] {s : String} {a : α}
    (h : Named.ofName? s = some a) : Named.name a = s := by
  simpa using List.find?_some h

theorem Named.ofName?_eq_some_iff {α : Type} [Named α] {s : String} {a : α} :
    Named.ofName? s = some a ↔ s = Named.name a :=
  ⟨fun h => (name_of_ofName? h).symm, fun h => h ▸ ofName?_name a⟩

end StorageTopology
