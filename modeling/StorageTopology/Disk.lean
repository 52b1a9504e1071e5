import StorageTopology.Partition
import StorageTopology.Text.Quoted

/-!
# Disks

A disk (`DiskInfo`) is its device path, what its description says of it, and its partitions in the
order of the description. An ordinal need not be the partition's position: deleted partitions
leave gaps. A description may also repeat an ordinal or use zero; `validateOrdinals`
(`validate_ordinals`) finds the first such fault, and `fillPaths` gives every partition its device
path if there is none. `settle` (`finish`) orders a disk that was read and fills in its paths.
-/

namespace StorageTopology

/-- The sizes of a sector, in bytes. -/
structure BlockGeometry where
  logicalSectorSize : UInt32
  physicalSectorSize : UInt32
  deriving DecidableEq, Repr

/-- A disk. `size` carries its unit; `label` is the kind of its partition table; `mountPoints`
are those of the whole device. -/
structure Disk where
  path : String
  size : String
  model : String
  transport : String
  label : String
  maxPartitions : Option UInt32
  geometry : Option BlockGeometry
  media : Option MediaFlags
  partitions : List Partition
  mountPoints : List String
  deriving DecidableEq, Repr

/-- What is wrong with a disk. -/
inductive TopologyError where
  | duplicateOrdinal (disk : String) (number : UInt32)
  | invalidOrdinal (disk : String) (number : UInt32)
  | invalidSize (value : String)
  | path (cause : PathError)
  deriving DecidableEq, Repr

namespace TopologyError

/-- The error in words. -/
def message : TopologyError → String
  | .duplicateOrdinal disk n => "duplicate partition ordinal " ++ n.toNat.repr ++ " on " ++ disk
  | .invalidOrdinal disk n =>
    "partition ordinal " ++ n.toNat.repr ++ " on " ++ disk ++ " is not positive"
  | .invalidSize value => "cannot parse size " ++ Text.quoted value
  | .path cause => cause.message

end TopologyError

/-- `l` with `f` applied to its first element that satisfies `p`, if there is one. -/
def editFirst {α : Type} (p : α → Bool) (f : α → α) : List α → Option (List α)
  | [] => none
  | a :: l => if p a then some (f a :: l) else (editFirst p f l).map (a :: ·)

namespace Disk

/-- The first partition with the given ordinal. -/
def partition? (d : Disk) (number : UInt32) : Option Partition :=
  d.partitions.find? (·.number = number)

/-- The disk with `f` applied to its first partition with the given ordinal, if it has one. -/
def editPartition? (d : Disk) (number : UInt32) (f : Partition → Partition) : Option Disk :=
  (editFirst (·.number = number) f d.partitions).map fun ps => { d with partitions := ps }

/-- Order the partitions by ordinal; those with the same ordinal keep their order. -/
def sortPartitions (d : Disk) : Disk :=
  { d with partitions := d.partitions.mergeSort fun p q => decide (p.number ≤ q.number) }

/-- The first ordinal of `numbers` that is zero, or that is in `seen` or before it in `numbers`,
as a fault of the disk at `path`. -/
def ordinalFault? (path : String) (seen : List UInt32) : List UInt32 → Option TopologyError
  | [] => none
  | n :: ns =>
    if n = 0 then some (.invalidOrdinal path n)
    else if n ∈ seen then some (.duplicateOrdinal path n)
    else ordinalFault? path (n :: seen) ns

/-- Every ordinal is positive and no two partitions have the same. -/
def validateOrdinals (d : Disk) : Except TopologyError Unit :=
  match ordinalFault? d.path [] (d.partitions.map (·.number)) with
  | some fault => .error fault
  | none => .ok ()

/-- Validate the ordinals, then give every partition its device path. -/
def fillPaths (d : Disk) : Except TopologyError Disk := do
  d.validateOrdinals
  match Partition.fillPaths d.path d.partitions with
  | .error e => .error (.path e)
  | .ok ps => .ok { d with partitions := ps }

/-- The disk in its final form: partitions in order of their ordinals, with their device paths. -/
def settle (d : Disk) : Except TopologyError Disk := d.sortPartitions.fillPaths

end Disk

end StorageTopology
