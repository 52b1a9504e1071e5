import StorageTopology.Json.Named
import StorageTopology.Lvm.Record

/-!
# Volume records in JSON

The records `PhysicalVolumeInfo`, `VolumeGroupInfo` and `LogicalVolumeInfo` with their attributes.
Every field must be there, apart from the ones that may be absent.
-/

namespace StorageTopology.Lvm

open Json

namespace PvAttributes

/-- The record of the attributes of a physical volume. -/
def toJson (a : PvAttributes) : Value :=
  .record [("allocatable", .bool a.allocatable), ("used", .bool a.used),
    ("duplicate", .bool a.duplicate), ("exported", .bool a.exported),
    ("missing", .bool a.missing)]

/-- Read the attributes of a physical volume. -/
def ofJson? (v : Value) : Option PvAttributes := do
  let [allocatable, used, duplicate, exported, missing] ←
    v.fields? [field "allocatable", field "used", field "duplicate", field "exported",
      field "missing"] | none
  let allocatable ← required Value.bool? allocatable
  let used ← required Value.bool? used
  let duplicate ← required Value.bool? duplicate
  let exported ← required Value.bool? exported
  let missing ← required Value.bool? missing
  some ⟨allocatable, used, duplicate, exported, missing⟩

end PvAttributes

namespace VgAttributes

/-- The record of the attributes of a group. -/
def toJson (a : VgAttributes) : Value :=
  .record [("writable", .bool a.writable), ("resizable", .bool a.resizable),
    ("exported", .bool a.exported), ("partial", .bool a.incomplete),
    ("allocation", .ofNamed a.allocation), ("clustered", .bool a.clustered),
    ("shared", .bool a.shared)]

/-- Read the attributes of a group. -/
def ofJson? (v : Value) : Option VgAttributes := do
  let [writable, resizable, exported, incomplete, allocation, clustered, shared] ←
    v.fields? [field "writable", field "resizable", field "exported", field "partial",
      field "allocation", field "clustered", field "shared"] | none
  let writable ← required Value.bool? writable
  let resizable ← required Value.bool? resizable
  let exported ← required Value.bool? exported
  let incomplete ← required Value.bool? incomplete
  let allocation ← required Value.named? allocation
  let clustered ← required Value.bool? clustered
  let shared ← required Value.bool? shared
  some ⟨writable, resizable, exported, incomplete, allocation, clustered, shared⟩

end VgAttributes

namespace LvAttributes

/-- The record of the attributes of a logical volume. -/
def toJson (a : LvAttributes) : Value :=
  .record [("volume_type", .ofNamed a.volumeType), ("permission", .ofNamed a.permission),
    ("allocation", .option .ofNamed a.allocation), ("fixed_minor", .bool a.fixedMinor),
    ("state", .ofNamed a.state), ("device", .ofNamed a.device),
    ("target_type", .ofNamed a.targetType), ("zeroed", .bool a.zeroed),
    ("health", .ofNamed a.health), ("skip_activation", .bool a.skipActivation)]

/-- Read the attributes of a logical volume. -/
def ofJson? (v : Value) : Option LvAttributes := do
  let [volumeType, permission, allocation, fixedMinor, state, device, targetType, zeroed, health,
      skipActivation] ←
    v.fields? [field "volume_type", field "permission", field "allocation", field "fixed_minor",
      field "state", field "device", field "target_type", field "zeroed", field "health",
      field "skip_activation"] | none
  let volumeType ← required Value.named? volumeType
  let permission ← required Value.named? permission
  let allocation ← nullable Value.named? allocation
  let fixedMinor ← required Value.bool? fixedMinor
  let state ← required Value.named? state
  let device ← required Value.named? device
  let targetType ← required Value.named? targetType
  let zeroed ← required Value.bool? zeroed
  let health ← required Value.named? health
  let skipActivation ← required Value.bool? skipActivation
  some ⟨volumeType, permission, allocation, fixedMinor, state, device, targetType, zeroed, health,
    skipActivation⟩

end LvAttributes

namespace PhysicalVolume

/-- The record of a physical volume. -/
def toJson (v : PhysicalVolume) : Value :=
  .record [("device", .str v.device), ("vg_name", .option .str v.vgName),
    ("format", .str v.format), ("attributes", v.attributes.toJson), ("size", .nat v.size.toNat),
    ("free", .nat v.free.toNat)]

/-- Read a physical volume. -/
def ofJson? (v : Value) : Option PhysicalVolume := do
  let [device, vgName, format, attributes, size, free] ←
    v.fields? [field "device", field "vg_name", field "format", field "attributes", field "size",
      field "free"] | none
  let device ← required Value.str? device
  let vgName ← nullable Value.str? vgName
  let format ← required Value.str? format
  let attributes ← required PvAttributes.ofJson? attributes
  let size ← required Value.word64? size
  let free ← required Value.word64? free
  some ⟨device, vgName, format, attributes, size, free⟩

end PhysicalVolume

namespace VolumeGroup

/-- The record of a group. -/
def toJson (v : VolumeGroup) : Value :=
  .record [("name", .str v.name), ("attributes", v.attributes.toJson), ("size", .nat v.size.toNat),
    ("free", .nat v.free.toNat), ("pv_count", .nat v.pvCount.toNat),
    ("lv_count", .nat v.lvCount.toNat)]

/-- Read a group. -/
def ofJson? (v : Value) : Option VolumeGroup := do
  let [name, attributes, size, free, pvCount, lvCount] ←
    v.fields? [field "name", field "attributes", field "size", field "free", field "pv_count",
      field "lv_count"] | none
  let name ← required Value.str? name
  let attributes ← required VgAttributes.ofJson? attributes
  let size ← required Value.word64? size
  let free ← required Value.word64? free
  let pvCount ← required Value.word32? pvCount
  let lvCount ← required Value.word32? lvCount
  some ⟨name, attributes, size, free, pvCount, lvCount⟩

end VolumeGroup

namespace LogicalVolume

/-- The record of a logical volume. -/
def toJson (v : LogicalVolume) : Value :=
  .record [("name", .str v.name), ("vg_name", .str v.vgName),
    ("attributes", v.attributes.toJson), ("size", .nat v.size.toNat),
    ("pool", .option .str v.pool), ("device_path", .str v.devicePath)]

/-- Read a logical volume. -/
def ofJson? (v : Value) : Option LogicalVolume := do
  let [name, vgName, attributes, size, pool, devicePath] ←
    v.fields? [field "name", field "vg_name", field "attributes", field "size", field "pool",
      field "device_path"] | none
  let name ← required Value.str? name
  let vgName ← required Value.str? vgName
  let attributes ← required LvAttributes.ofJson? attributes
  let size ← required Value.word64? size
  let pool ← nullable Value.str? pool
  let devicePath ← required Value.str? devicePath
  some ⟨name, vgName, attributes, size, pool, devicePath⟩

end LogicalVolume

end StorageTopology.Lvm
