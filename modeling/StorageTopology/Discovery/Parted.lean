import StorageTopology.Failure
import StorageTopology.Json.Parse
import StorageTopology.Json.Record

/-!
# Disks as parted describes them

`parted` describes a disk by its partition table in JSON. `parse` is `parse_parted_json`:
`Table.ofJson?` reads the description, `Table.toDisk` makes a disk of it: the partitions are
ordered by ordinal, and every one gets its device path. The geometry is known only if both sector
sizes are, and a file system without a name is none.
-/

namespace StorageTopology

open Json

namespace Parted

/-- An entry of the table. -/
structure Entry where
  number : UInt32
  start : String
  finish : String
  size : String
  partType : String
  name : String
  filesystem : Option String
  deriving DecidableEq, Repr

/-- The description of a disk. -/
structure Table where
  path : String
  size : String
  model : String
  transport : String
  label : String
  logicalSectorSize : Option UInt32
  physicalSectorSize : Option UInt32
  maxPartitions : Option UInt32
  partitions : List Entry
  deriving DecidableEq, Repr

namespace Entry

/-- Read an entry; `type`, `name` and `filesystem` may be left out. -/
def ofJson? (v : Value) : Option Entry := do
  let [number, start, finish, size, partType, name, filesystem] ←
    v.fields? [field "number", field "start", field "end", field "size", optionalField "type",
      optionalField "name", optionalField "filesystem"] | none
  let number ← required Value.word32? number
  let start ← required Value.str? start
  let finish ← required Value.str? finish
  let size ← required Value.str? size
  let partType ← withDefault "" Value.str? partType
  let name ← withDefault "" Value.str? name
  let filesystem ← nullable Value.str? filesystem
  some ⟨number, start, finish, size, partType, name, filesystem⟩

/-- The partition of an entry, without its device path. -/
def toPartition (e : Entry) : Partition :=
  { Partition.ofNumber e.number with
    name := e.name
    start := some e.start
    finish := some e.finish
    size := e.size
    partType := e.partType
    filesystem := e.filesystem.filter (· ≠ "") }

end Entry

namespace Table

/-- Read a table; `model`, `transport`, `label` and `partitions` may be left out. -/
def ofJson? (v : Value) : Option Table := do
  let [path, size, model, transport, label, logical, physical, maxPartitions, partitions] ←
    v.fields? [field "path", field "size", optionalField "model", optionalField "transport",
      optionalField "label", field "logical-sector-size", field "physical-sector-size",
      field "max-partitions", optionalField "partitions"] | none
  let path ← required Value.str? path
  let size ← required Value.str? size
  let model ← withDefault "" Value.str? model
  let transport ← withDefault "" Value.str? transport
  let label ← withDefault "" Value.str? label
  let logical ← nullable Value.word32? logical
  let physical ← nullable Value.word32? physical
  let maxPartitions ← nullable Value.word32? maxPartitions
  let partitions ← withDefault [] (Value.list? Entry.ofJson?) partitions
  some ⟨path, size, model, transport, label, logical, physical, maxPartitions, partitions⟩

/-- The table in the output of the tool. -/
def ofOutput? (output : String) : Option Table := do
  let v ← Value.parse? output
  let [table] ← v.fields? [field "disk"] | none
  required ofJson? table

/-- The sector sizes, if both are known. -/
def geometry (t : Table) : Option BlockGeometry :=
  match t.logicalSectorSize, t.physicalSectorSize with
  | some logical, some physical => some ⟨logical, physical⟩
  | _, _ => none

/-- The disk that a table describes. -/
def toDisk (t : Table) : Except TopologyError Disk :=
  Disk.settle
    { path := t.path
      size := t.size
      model := t.model
      transport := t.transport
      label := t.label
      maxPartitions := t.maxPartitions
      geometry := t.geometry
      media := none
      partitions := t.partitions.map Entry.toPartition
      mountPoints := [] }

end Table

/-- The disk that an output of `parted` describes. -/
def parse (output : String) : Except Failure Disk :=
  match Table.ofOutput? output with
  | some t => t.toDisk.mapError .topology
  | none => .error .json

end Parted

end StorageTopology
