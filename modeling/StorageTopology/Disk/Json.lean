import StorageTopology.Disk.Free
import StorageTopology.Json.Figure
import StorageTopology.Json.Record

/-!
# Disks and partitions in JSON

The records of `DiskInfo`. Every record is written with all its fields, absent ones as null, and
read back by the rules for records. `number` of a partition, `path` of a disk and all fields of
the small records must be there; the others have a default.
-/

namespace StorageTopology

open Json

namespace MediaFlags

/-- The record of media flags. -/
def toJson (m : MediaFlags) : Value :=
  .record [("removable", .bool m.removable), ("read_only", .bool m.readOnly)]

/-- Read media flags. -/
def ofJson? (v : Value) : Option MediaFlags := do
  let [removable, readOnly] ← v.fields? [field "removable", field "read_only"] | none
  let removable ← required Value.bool? removable
  let readOnly ← required Value.bool? readOnly
  some ⟨removable, readOnly⟩

end MediaFlags

namespace LvmMembership

/-- The record of a membership. -/
def toJson (m : LvmMembership) : Value :=
  .record [("vg_name", .option .str m.vgName)]

/-- Read a membership. -/
def ofJson? (v : Value) : Option LvmMembership := do
  let [vgName] ← v.fields? [field "vg_name"] | none
  let vgName ← nullable Value.str? vgName
  some ⟨vgName⟩

end LvmMembership

namespace BlockGeometry

/-- The record of sector sizes. -/
def toJson (g : BlockGeometry) : Value :=
  .record [("logical_sector_size", .nat g.logicalSectorSize.toNat),
    ("physical_sector_size", .nat g.physicalSectorSize.toNat)]

/-- Read sector sizes. -/
def ofJson? (v : Value) : Option BlockGeometry := do
  let [logical, physical] ←
    v.fields? [field "logical_sector_size", field "physical_sector_size"] | none
  let logical ← required Value.word32? logical
  let physical ← required Value.word32? physical
  some ⟨logical, physical⟩

end BlockGeometry

namespace Partition

/-- The record of a partition. -/
def toJson (p : Partition) : Value :=
  .record [("name", .str p.name), ("number", .nat p.number.toNat),
    ("path", .option .str p.path), ("start", .option .str p.start),
    ("end", .option .str p.finish), ("size", .str p.size), ("part_type", .str p.partType),
    ("filesystem", .option .str p.filesystem), ("media", .option MediaFlags.toJson p.media),
    ("mount_points", .strs p.mountPoints), ("lvm", .option LvmMembership.toJson p.lvm)]

/-- Read a partition, of which only the ordinal must be there. -/
def ofJson? (v : Value) : Option Partition := do
  let [name, number, path, start, finish, size, partType, filesystem, media, mountPoints, lvm] ←
    v.fields? [optionalField "name", field "number", optionalField "path", optionalField "start",
      optionalField "end", optionalField "size", optionalField "part_type",
      optionalField "filesystem", optionalField "media", optionalField "mount_points",
      optionalField "lvm"] | none
  let name ← withDefault "" Value.str? name
  let number ← required Value.word32? number
  let path ← nullable Value.str? path
  let start ← nullable Value.str? start
  let finish ← nullable Value.str? finish
  let size ← withDefault "" Value.str? size
  let partType ← withDefault "" Value.str? partType
  let filesystem ← nullable Value.str? filesystem
  let media ← nullable MediaFlags.ofJson? media
  let mountPoints ← withDefault [] (Value.list? Value.str?) mountPoints
  let lvm ← nullable LvmMembership.ofJson? lvm
  some ⟨name, number, path, start, finish, size, partType, filesystem, media, mountPoints, lvm⟩

end Partition

namespace Disk

/-- The record of a disk and its partitions. -/
def toJson (d : Disk) : Value :=
  .record [("path", .str d.path), ("size", .str d.size), ("model", .str d.model),
    ("transport", .str d.transport), ("label", .str d.label),
    ("max_partitions", .option (fun n : UInt32 => .nat n.toNat) d.maxPartitions),
    ("geometry", .option BlockGeometry.toJson d.geometry),
    ("media", .option MediaFlags.toJson d.media),
    ("partitions", .array (d.partitions.map Partition.toJson)),
    ("mount_points", .strs d.mountPoints)]

/-- Read a disk, of which only the path must be there. -/
def ofJson? (v : Value) : Option Disk := do
  let [path, size, model, transport, label, maxPartitions, geometry, media, partitions,
      mountPoints] ←
    v.fields? [field "path", optionalField "size", optionalField "model",
      optionalField "transport", optionalField "label", optionalField "max_partitions",
      optionalField "geometry", optionalField "media", optionalField "partitions",
      optionalField "mount_points"] | none
  let path ← required Value.str? path
  let size ← withDefault "" Value.str? size
  let model ← withDefault "" Value.str? model
  let transport ← withDefault "" Value.str? transport
  let label ← withDefault "" Value.str? label
  let maxPartitions ← nullable Value.word32? maxPartitions
  let geometry ← nullable BlockGeometry.ofJson? geometry
  let media ← nullable MediaFlags.ofJson? media
  let partitions ← withDefault [] (Value.list? Partition.ofJson?) partitions
  let mountPoints ← withDefault [] (Value.list? Value.str?) mountPoints
  some ⟨path, size, model, transport, label, maxPartitions, geometry, media, partitions,
    mountPoints⟩

end Disk

namespace FreeRegion

/-- A number as a figure. -/
def figure? : Value → Option Binary64
  | .number n => n.figure?
  | _ => none

/-- Read an unallocated region by its ends. -/
def ofJson? (v : Value) : Option FreeRegion := do
  let [start, finish] ← v.fields? [field "start_mib", field "end_mib"] | none
  let start ← required figure? start
  let finish ← required figure? finish
  some ⟨start, finish⟩

end FreeRegion

end StorageTopology
