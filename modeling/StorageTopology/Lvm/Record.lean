import StorageTopology.Disk
import StorageTopology.Lvm.Attributes

/-!
# Physical volumes, volume groups and logical volumes

The records of volume reports (`PhysicalVolumeInfo`, `VolumeGroupInfo`, `LogicalVolumeInfo`).
Sizes are in bytes. `annotate` (`annotate_lvm_members`) marks the partitions of a disk that are
physical volumes.
-/

namespace StorageTopology.Lvm

/-- What is left of `size` without `free`, never below zero. -/
def usedOf (size free : UInt64) : UInt64 :=
  if free ≤ size then size - free else 0

theorem toNat_usedOf (size free : UInt64) :
    (usedOf size free).toNat = size.toNat - free.toNat := by
  unfold usedOf
  split
  · exact UInt64.toNat_sub_of_le _ _ ‹_›
  · rename_i h
    rw [UInt64.le_iff_toNat_le] at h
    exact (Nat.sub_eq_zero_of_le (by omega)).symm

/-- A physical volume; `vgName` is none for one that is not assigned. -/
structure PhysicalVolume where
  device : String
  vgName : Option String
  format : String
  attributes : PvAttributes
  size : UInt64
  free : UInt64
  deriving DecidableEq, Repr

namespace PhysicalVolume

/-- Whether the volume belongs to a group. -/
def isAssigned (v : PhysicalVolume) : Bool := v.vgName.isSome

/-- The bytes in use. -/
def used (v : PhysicalVolume) : UInt64 := usedOf v.size v.free

end PhysicalVolume

/-- A volume group, with its numbers of physical and logical volumes. -/
structure VolumeGroup where
  name : String
  attributes : VgAttributes
  size : UInt64
  free : UInt64
  pvCount : UInt32
  lvCount : UInt32
  deriving DecidableEq, Repr

namespace VolumeGroup

/-- The bytes in use. -/
def used (v : VolumeGroup) : UInt64 := usedOf v.size v.free

end VolumeGroup

/-- A logical volume; `pool` is the thin pool that backs it, if one does. -/
structure LogicalVolume where
  name : String
  vgName : String
  attributes : LvAttributes
  size : UInt64
  pool : Option String
  devicePath : String
  deriving DecidableEq, Repr

namespace LogicalVolume

/-- Whether the volume is active. -/
def isActive (v : LogicalVolume) : Bool := v.attributes.state = .active

/-- Whether the volume may be written. -/
def isWritable (v : LogicalVolume) : Bool := v.attributes.permission = .writable

/-- Whether the volume is a thin pool. -/
def isThinPool (v : LogicalVolume) : Bool := v.attributes.volumeType = .thinPool

end LogicalVolume

/-- The kind of segment that a new logical volume gets. -/
inductive SegmentType where
  | linear
  | striped
  | raid1
  | raid5
  | thinPool
  deriving DecidableEq, Repr

/-- The names of kinds of segments. -/
instance : Named SegmentType where
  all := [.linear, .striped, .raid1, .raid5, .thinPool]
  name
    | .linear => "linear"
    | .striped => "striped"
    | .raid1 => "raid1"
    | .raid5 => "raid5"
    | .thinPool => "thin-pool"
  find?_name a := by cases a <;> rfl

/-- The membership of the device at `path`, from the first volume with that device. -/
def membership? (volumes : List PhysicalVolume) (path : String) : Option LvmMembership :=
  (volumes.find? (·.device = path)).map fun v => ⟨v.vgName⟩

/-- The disk with the membership of every partition that has a device path. -/
def annotate (d : Disk) (volumes : List PhysicalVolume) : Disk :=
  { d with
    partitions := d.partitions.map fun p =>
      match p.path with
      | some path => { p with lvm := membership? volumes path }
      | none => p }

end StorageTopology.Lvm
