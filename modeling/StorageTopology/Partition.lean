import StorageTopology.DevicePath

/-!
# Partitions

A partition (`PartitionInfo`) belongs to one disk and carries what its description says: its
ordinal always, the rest where it is known. Offsets and sizes stay texts with their unit, as they
were reported.
-/

namespace StorageTopology

/-- Whether a device can be removed, and whether it can only be read. -/
structure MediaFlags where
  removable : Bool
  readOnly : Bool
  deriving DecidableEq, Repr, Inhabited

/-- The volume group that a physical volume belongs to, none for one that is not assigned. -/
structure LvmMembership where
  vgName : Option String
  deriving DecidableEq, Repr

/-- A partition. `number` is its ordinal in the partition table, where gaps are allowed; `path`
is its device path once that has been filled in; `lvm` is there if it is a physical volume. -/
structure Partition where
  name : String
  number : UInt32
  path : Option String
  start : Option String
  finish : Option String
  size : String
  partType : String
  filesystem : Option String
  media : Option MediaFlags
  mountPoints : List String
  lvm : Option LvmMembership
  deriving DecidableEq, Repr

namespace Partition

/-- A partition of which only the ordinal is known. -/
def ofNumber (number : UInt32) : Partition :=
  ⟨"", number, none, none, none, "", "", none, none, [], none⟩

/-- Whether the partition is mounted anywhere. -/
def isMounted (p : Partition) : Bool := !p.mountPoints.isEmpty

/-- Whether the partition backs a physical volume. -/
def isLvmMember (p : Partition) : Bool := p.lvm.isSome

/-- The name, or else the last part of the device path, or else the ordinal. -/
def displayName (p : Partition) : String :=
  if p.name ≠ "" then p.name
  else
    match p.path with
    | some path => DevicePath.baseName path
    | none => "Partition " ++ p.number.toNat.repr

/-- Give every partition its device path on the disk at `parent`. All ordinals are checked
before any path is written. -/
def fillPaths (parent : String) (ps : List Partition) : Except PathError (List Partition) := do
  let sep ← DevicePath.separator parent
  match ps.find? (·.number = 0) with
  | some p => .error (.invalidOrdinal p.number)
  | none =>
    .ok (ps.map fun p => { p with path := some (parent ++ sep ++ p.number.toNat.repr) })

end Partition

end StorageTopology
