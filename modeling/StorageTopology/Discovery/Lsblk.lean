import StorageTopology.Failure
import StorageTopology.Json.Parse
import StorageTopology.Json.Record
import StorageTopology.Text.Blank

/-!
# Disks as lsblk describes them

`lsblk` describes a disk as a tree of devices in JSON, one tree for each device asked for. The
children of the disk that are partitions are named after it, so their ordinals are in their names;
deeper devices are not looked at.

`parse` is `parse_lsblk_json`, and a `Device` is an `LsblkDevice`. Flags are booleans, numbers or
texts, depending on the version of the tool, and mount points are a list in newer versions and a
single one in older ones. The devices of a description may be nested as long as no more than 127
containers are open at once.
-/

namespace StorageTopology

open Json

namespace Lsblk

/-- A value whose kind depends on the version of the tool. -/
inductive Scalar where
  | flag (b : Bool)
  | number (n : UInt64)
  | text (s : String)
  deriving DecidableEq, Repr

namespace Scalar

/-- Read a value of any of the three kinds. -/
def ofJson? : Value → Option Scalar
  | .bool b => some (.flag b)
  | .text (some s) => some (.text s)
  | v => v.word64?.map .number

/-- The value as a flag: of texts, `1` and the word `true` in any case are set. -/
def toFlag : Scalar → Bool
  | .flag b => b
  | .number n => n ≠ 0
  | .text s => s = "1" || s.toList.map Char.toLower = "true".toList

/-- The value as a text. -/
def toText : Scalar → String
  | .flag b => if b then "true" else "false"
  | .number n => n.toNat.repr
  | .text s => s

end Scalar

/-- A device and the devices on it. -/
structure Device where
  name : String
  path : Option String
  size : Option Scalar
  removable : Bool
  readOnly : Bool
  kind : String
  fstype : Option String
  mountpoints : List (Option String)
  mountpoint : Option String
  model : Option String
  transport : Option String
  tableType : Option String
  children : List Device
  deriving Repr

/-- The number of containers that may be open at once. -/
def maxDepth : Nat := 127

/-- A flag that is off when it is null. -/
def flag? (v : Value) : Option Bool := do
  let s ← v.nullable? Scalar.ofJson?
  some (s.any Scalar.toFlag)

namespace Device

/-- Read a device, its list of mount points by `mounts?` and the devices on it by `children?`. -/
def read? (mounts? : Value → Option (List (Option String)))
    (children? : Value → Option (List Device)) (v : Value) : Option Device := do
  let [name, path, size, removable, readOnly, kind, fstype, mountpoints, mountpoint, model,
      transport, tableType, children] ←
    v.fields? [field "name", optionalField "path", optionalField "size", optionalField "rm",
      optionalField "ro", optionalField "type", optionalField "fstype",
      optionalField "mountpoints", optionalField "mountpoint", optionalField "model",
      optionalField "tran", optionalField "pttype", optionalField "children"] | none
  let name ← required Value.str? name
  let path ← nullable Value.str? path
  let size ← nullable Scalar.ofJson? size
  let removable ← withDefault false flag? removable
  let readOnly ← withDefault false flag? readOnly
  let kind ← withDefault "" Value.str? kind
  let fstype ← nullable Value.str? fstype
  let mountpoints ← withDefault [] mounts? mountpoints
  let mountpoint ← nullable Value.str? mountpoint
  let model ← nullable Value.str? model
  let transport ← nullable Value.str? transport
  let tableType ← nullable Value.str? tableType
  let children ← withDefault [] children? children
  some ⟨name, path, size, removable, readOnly, kind, fstype, mountpoints, mountpoint, model,
    transport, tableType, children⟩

/-- Read a device; it and what is in it may open `depth` containers. The device is one, and so is
each of the lists in it. -/
def ofJson? : (depth : Nat) → Value → Option Device
  | 0, _ => none
  | 1, v => read? (fun _ => none) (fun _ => none) v
  | inner + 2, v => read? (Value.list? (·.nullable? Value.str?)) (Value.list? (ofJson? inner)) v

/-- The media flags of a device. -/
def media (d : Device) : MediaFlags := ⟨d.removable, d.readOnly⟩

/-- The mount points of either form. -/
def mountPoints (d : Device) : List String :=
  d.mountpoints.filterMap id ++ d.mountpoint.toList

/-- The size as a text, empty if there is none. -/
def sizeText (d : Device) : String := (d.size.map Scalar.toText).getD ""

/-- The device path; a device without one is under `/dev`. -/
def devicePath (d : Device) : String := d.path.getD ("/dev/" ++ d.name)

/-- A partition rather than another device. -/
def isPartition (d : Device) : Bool := d.kind = "part"

/-- The partition of `disk` that a child of it is. -/
def toPartition (disk child : Device) : Except ParseError Partition :=
  match DevicePath.ordinal? disk.name child.name with
  | none => .error (.foreignPartition child.name disk.name)
  | some number =>
    .ok { Partition.ofNumber number with
      name := child.name
      media := some child.media
      mountPoints := child.mountPoints
      size := child.sizeText
      partType := child.kind
      filesystem := child.fstype }

/-- The disk that a device is. -/
def toDisk (d : Device) : Except Failure Disk := do
  let partitions ← ((d.children.filter isPartition).mapM (toPartition d)).mapError .parse
  let disk : Disk :=
    { path := d.devicePath
      size := d.sizeText
      model := Text.trim (d.model.getD "")
      transport := d.transport.getD ""
      label := d.tableType.getD ""
      maxPartitions := none
      geometry := none
      media := some d.media
      partitions := partitions
      mountPoints := d.mountPoints }
  disk.settle.mapError .topology

end Device

/-- The devices in the output of the tool. The object and the list around them are two open
containers. -/
def devices? (output : String) : Option (List Device) := do
  let v ← Value.parse? output
  let [devices] ← v.fields? [field "blockdevices"] | none
  required (Value.list? (Device.ofJson? (maxDepth - 2))) devices

/-- The disk that the devices of an output describe: there must be exactly one. -/
def diskOfDevices : List Device → Except Failure Disk
  | [d] => d.toDisk
  | ds => .error (.parse (.deviceCount ds.length))

/-- The disk that an output of `lsblk` describes. -/
def parse (output : String) : Except Failure Disk :=
  match devices? output with
  | some ds => diskOfDevices ds
  | none => .error .json

end Lsblk

end StorageTopology
