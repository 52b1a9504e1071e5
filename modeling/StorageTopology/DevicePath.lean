import StorageTopology.Decimal.Unsigned

/-!
# Device paths of partitions

A partition's device path is the path of its disk followed by the partition's ordinal in decimal.
If the path of the disk ends in a decimal digit, the letter `p` stands between the two, so that
`/dev/nvme0n1` has `/dev/nvme0n1p1` where `/dev/sda` has `/dev/sda1`. `ofOrdinal`
(`partition_device_path`) builds the path and `ordinal?` (`split_partition_path`) takes it apart;
both work on full paths and on bare kernel names.
-/

namespace StorageTopology

/-- Why a partition has no device path. -/
inductive PathError where
  | emptyParent
  | invalidOrdinal (number : UInt32)
  deriving DecidableEq, Repr

namespace PathError

/-- The error in words. -/
def message : PathError → String
  | .emptyParent => "parent device path is empty"
  | .invalidOrdinal n => "invalid partition ordinal: " ++ n.toNat.repr

end PathError

namespace DevicePath

/-- What stands between the path of a disk and the ordinal. -/
def separator (parent : String) : Except PathError String :=
  match parent.toList.getLast? with
  | none => .error .emptyParent
  | some c => .ok (if c.isDigit then "p" else "")

/-- The device path of partition `number` of the disk at `parent`. -/
def ofOrdinal (parent : String) (number : UInt32) : Except PathError String := do
  let sep ← separator parent
  if number = 0 then .error (.invalidOrdinal number)
  else .ok (parent ++ sep ++ number.toNat.repr)

/-- What follows `pre` in `cs`. -/
def afterPrefix? (pre cs : List Char) : Option (List Char) :=
  if pre.isPrefixOf cs then some (cs.drop pre.length) else none

theorem afterPrefix?_eq_some_iff {pre cs rest : List Char} :
    afterPrefix? pre cs = some rest ↔ cs = pre ++ rest := by
  unfold afterPrefix?
  split
  · rename_i h
    obtain ⟨tail, rfl⟩ := List.isPrefixOf_iff_prefix.mp h
    simp
  · rename_i h
    refine ⟨nofun, fun hcs => absurd ?_ h⟩
    exact List.isPrefixOf_iff_prefix.mpr ⟨rest, hcs.symm⟩

/-- The ordinal of the partition of `parent` whose device path is `path`. Leading zeros, signs
and numbers of more than 32 bits do not occur in device paths. -/
def ordinal? (parent path : String) : Option UInt32 :=
  match separator parent with
  | .error _ => none
  | .ok sep => do
    let digits ← afterPrefix? (parent.toList ++ sep.toList) path.toList
    if !Decimal.isDigits digits || digits.head? = some '0' then none
    else Decimal.word32? digits

/-- The part of a path after its last slash. -/
def baseName (path : String) : String :=
  String.ofList (path.toList.reverse.takeWhile (· ≠ '/')).reverse

end DevicePath

end StorageTopology
