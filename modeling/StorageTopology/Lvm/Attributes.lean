import StorageTopology.Text.Named
import StorageTopology.Text.Utf8

/-!
# Attribute columns of volume reports

A report describes a physical volume, a volume group or a logical volume by a column of letters at
fixed places (`PvAttributes`, `VgAttributes`, `LvAttributes`): three for a physical volume, six
for a group, ten for a logical volume. The places are bytes, so a character outside ASCII fills
several of them, and what follows the last place is not looked at. `parse?` reads a whole column;
one that is too short, or that has no meaning at some place, describes nothing.

Each kind of attribute has its letters, see `Lettered`; `ofLetter?` is `from_code`.
-/

namespace StorageTopology.Lvm

/-- The bytes of a column, each as the character with its number. -/
def places (column : String) : List Char :=
  (Utf8.encode column).map fun b => Char.ofNat b.toNat

/-- A letter or a dash. -/
def isCodeChar (c : Char) : Bool := c = '-' || c.isAlpha

/-- A type whose elements have letters: `ofLetter?` reads the letter of an element as that element,
and nothing else. -/
class Lettered (α : Type) where
  letter : α → Char
  ofLetter? : Char → Option α
  isCodeChar_letter (a : α) : isCodeChar (letter a)
  ofLetter?_letter (a : α) : ofLetter? (letter a) = some a
  letter_of_ofLetter? {c : Char} {a : α} : ofLetter? c = some a → letter a = c

/-- How extents are allocated. A logical volume may inherit the policy of its group. -/
inductive AllocationPolicy where
  | anywhere
  | contiguous
  | cling
  | normal
  | inherited
  deriving DecidableEq, Repr

/-- The letters of policies. -/
instance : Lettered AllocationPolicy where
  letter
    | .anywhere => 'a'
    | .contiguous => 'c'
    | .cling => 'l'
    | .normal => 'n'
    | .inherited => 'i'
  ofLetter?
    | 'a' => some .anywhere
    | 'c' => some .contiguous
    | 'l' => some .cling
    | 'n' => some .normal
    | 'i' => some .inherited
    | _ => none
  isCodeChar_letter p := by cases p <;> rfl
  ofLetter?_letter p := by cases p <;> rfl
  letter_of_ofLetter? h := by split at h <;> cases h <;> rfl

/-- The names of policies. -/
instance : Named AllocationPolicy where
  all :=
    [.anywhere, .contiguous, .cling, .normal, .inherited]
  name
    | .anywhere => "anywhere"
    | .contiguous => "contiguous"
    | .cling => "cling"
    | .normal => "normal"
    | .inherited => "inherited"
  find?_name a := by cases a <;> rfl

/-- What a logical volume is, from the first place of its column. -/
inductive VolumeType where
  | plain
  | cache
  | mirrored
  | mirroredNoInitialSync
  | origin
  | originMergingSnapshot
  | raid
  | raidNoInitialSync
  | snapshot
  | mergingSnapshot
  | pvMove
  | virtual
  | image
  | imageOutOfSync
  | mirrorLog
  | underConversion
  | thinVolume
  | thinPool
  | thinPoolData
  | vdoPool
  | vdoPoolData
  | metadata
  deriving DecidableEq, Repr

/-- The letters of kinds of volumes. -/
instance : Lettered VolumeType where
  letter
    | .plain => '-'
    | .cache => 'C'
    | .mirrored => 'm'
    | .mirroredNoInitialSync => 'M'
    | .origin => 'o'
    | .originMergingSnapshot => 'O'
    | .raid => 'r'
    | .raidNoInitialSync => 'R'
    | .snapshot => 's'
    | .mergingSnapshot => 'S'
    | .pvMove => 'p'
    | .virtual => 'v'
    | .image => 'i'
    | .imageOutOfSync => 'I'
    | .mirrorLog => 'l'
    | .underConversion => 'c'
    | .thinVolume => 'V'
    | .thinPool => 't'
    | .thinPoolData => 'T'
    | .vdoPool => 'd'
    | .vdoPoolData => 'D'
    | .metadata => 'e'
  ofLetter?
    | '-' => some .plain
    | 'C' => some .cache
    | 'm' => some .mirrored
    | 'M' => some .mirroredNoInitialSync
    | 'o' => some .origin
    | 'O' => some .originMergingSnapshot
    | 'r' => some .raid
    | 'R' => some .raidNoInitialSync
    | 's' => some .snapshot
    | 'S' => some .mergingSnapshot
    | 'p' => some .pvMove
    | 'v' => some .virtual
    | 'i' => some .image
    | 'I' => some .imageOutOfSync
    | 'l' => some .mirrorLog
    | 'c' => some .underConversion
    | 'V' => some .thinVolume
    | 't' => some .thinPool
    | 'T' => some .thinPoolData
    | 'd' => some .vdoPool
    | 'D' => some .vdoPoolData
    | 'e' => some .metadata
    | _ => none
  isCodeChar_letter t := by cases t <;> rfl
  ofLetter?_letter t := by cases t <;> rfl
  letter_of_ofLetter? h := by split at h <;> cases h <;> rfl

/-- The names of kinds of volumes. -/
instance : Named VolumeType where
  all :=
    [.plain, .cache, .mirrored, .mirroredNoInitialSync, .origin, .originMergingSnapshot, .raid,
     .raidNoInitialSync, .snapshot, .mergingSnapshot, .pvMove, .virtual, .image, .imageOutOfSync,
     .mirrorLog, .underConversion, .thinVolume, .thinPool, .thinPoolData, .vdoPool, .vdoPoolData,
     .metadata]
  name
    | .plain => "plain"
    | .cache => "cache"
    | .mirrored => "mirrored"
    | .mirroredNoInitialSync => "mirrored-no-initial-sync"
    | .origin => "origin"
    | .originMergingSnapshot => "origin-merging-snapshot"
    | .raid => "raid"
    | .raidNoInitialSync => "raid-no-initial-sync"
    | .snapshot => "snapshot"
    | .mergingSnapshot => "merging-snapshot"
    | .pvMove => "pv-move"
    | .virtual => "virtual"
    | .image => "image"
    | .imageOutOfSync => "image-out-of-sync"
    | .mirrorLog => "mirror-log"
    | .underConversion => "under-conversion"
    | .thinVolume => "thin-volume"
    | .thinPool => "thin-pool"
    | .thinPoolData => "thin-pool-data"
    | .vdoPool => "vdo-pool"
    | .vdoPoolData => "vdo-pool-data"
    | .metadata => "metadata"
  find?_name a := by cases a <;> rfl

/-- Whether a logical volume may be written. A volume that is not read-only itself may still have
a read-only activation. -/
inductive Permission where
  | unknown
  | writable
  | readOnly
  | readOnlyActivation
  deriving DecidableEq, Repr

/-- The letters of permissions. -/
instance : Lettered Permission where
  letter
    | .unknown => '-'
    | .writable => 'w'
    | .readOnly => 'r'
    | .readOnlyActivation => 'R'
  ofLetter?
    | '-' => some .unknown
    | 'w' => some .writable
    | 'r' => some .readOnly
    | 'R' => some .readOnlyActivation
    | _ => none
  isCodeChar_letter p := by cases p <;> rfl
  ofLetter?_letter p := by cases p <;> rfl
  letter_of_ofLetter? h := by split at h <;> cases h <;> rfl

/-- The names of permissions. -/
instance : Named Permission where
  all :=
    [.unknown, .writable, .readOnly, .readOnlyActivation]
  name
    | .unknown => "unknown"
    | .writable => "writable"
    | .readOnly => "read-only"
    | .readOnlyActivation => "read-only-activation"
  find?_name a := by cases a <;> rfl

/-- The state of a logical volume. -/
inductive VolumeState where
  | inactive
  | active
  | historical
  | suspended
  | invalidSnapshot
  | invalidSuspendedSnapshot
  | snapshotMergeFailed
  | suspendedSnapshotMergeFailed
  | mappedWithoutTables
  | mappedWithInactiveTable
  | thinPoolCheckNeeded
  | suspendedThinPoolCheckNeeded
  | unknown
  deriving DecidableEq, Repr

/-- The letters of states of a volume. -/
instance : Lettered VolumeState where
  letter
    | .inactive => '-'
    | .active => 'a'
    | .historical => 'h'
    | .suspended => 's'
    | .invalidSnapshot => 'I'
    | .invalidSuspendedSnapshot => 'S'
    | .snapshotMergeFailed => 'm'
    | .suspendedSnapshotMergeFailed => 'M'
    | .mappedWithoutTables => 'd'
    | .mappedWithInactiveTable => 'i'
    | .thinPoolCheckNeeded => 'c'
    | .suspendedThinPoolCheckNeeded => 'C'
    | .unknown => 'X'
  ofLetter?
    | '-' => some .inactive
    | 'a' => some .active
    | 'h' => some .historical
    | 's' => some .suspended
    | 'I' => some .invalidSnapshot
    | 'S' => some .invalidSuspendedSnapshot
    | 'm' => some .snapshotMergeFailed
    | 'M' => some .suspendedSnapshotMergeFailed
    | 'd' => some .mappedWithoutTables
    | 'i' => some .mappedWithInactiveTable
    | 'c' => some .thinPoolCheckNeeded
    | 'C' => some .suspendedThinPoolCheckNeeded
    | 'X' => some .unknown
    | _ => none
  isCodeChar_letter s := by cases s <;> rfl
  ofLetter?_letter s := by cases s <;> rfl
  letter_of_ofLetter? h := by split at h <;> cases h <;> rfl

/-- The names of states of a volume. -/
instance : Named VolumeState where
  all :=
    [.inactive, .active, .historical, .suspended, .invalidSnapshot, .invalidSuspendedSnapshot,
     .snapshotMergeFailed, .suspendedSnapshotMergeFailed, .mappedWithoutTables,
     .mappedWithInactiveTable, .thinPoolCheckNeeded, .suspendedThinPoolCheckNeeded, .unknown]
  name
    | .inactive => "inactive"
    | .active => "active"
    | .historical => "historical"
    | .suspended => "suspended"
    | .invalidSnapshot => "invalid-snapshot"
    | .invalidSuspendedSnapshot => "invalid-suspended-snapshot"
    | .snapshotMergeFailed => "snapshot-merge-failed"
    | .suspendedSnapshotMergeFailed => "suspended-snapshot-merge-failed"
    | .mappedWithoutTables => "mapped-without-tables"
    | .mappedWithInactiveTable => "mapped-with-inactive-table"
    | .thinPoolCheckNeeded => "thin-pool-check-needed"
    | .suspendedThinPoolCheckNeeded => "suspended-thin-pool-check-needed"
    | .unknown => "unknown"
  find?_name a := by cases a <;> rfl

/-- Whether the device of a logical volume is open. -/
inductive DeviceState where
  | closed
  | open
  | unknown
  deriving DecidableEq, Repr

/-- The letters of states of a device. -/
instance : Lettered DeviceState where
  letter
    | .closed => '-'
    | .open => 'o'
    | .unknown => 'X'
  ofLetter?
    | '-' => some .closed
    | 'o' => some .open
    | 'X' => some .unknown
    | _ => none
  isCodeChar_letter s := by cases s <;> rfl
  ofLetter?_letter s := by cases s <;> rfl
  letter_of_ofLetter? h := by split at h <;> cases h <;> rfl

/-- The names of states of a device. -/
instance : Named DeviceState where
  all :=
    [.closed, .open, .unknown]
  name
    | .closed => "closed"
    | .open => "open"
    | .unknown => "unknown"
  find?_name a := by cases a <;> rfl

/-- The kernel target behind a logical volume. -/
inductive TargetType where
  | noTarget
  | cache
  | mirror
  | raid
  | snapshot
  | thin
  | unknown
  | virtual
  deriving DecidableEq, Repr

/-- The letters of targets. -/
instance : Lettered TargetType where
  letter
    | .noTarget => '-'
    | .cache => 'C'
    | .mirror => 'm'
    | .raid => 'r'
    | .snapshot => 's'
    | .thin => 't'
    | .unknown => 'u'
    | .virtual => 'v'
  ofLetter?
    | '-' => some .noTarget
    | 'C' => some .cache
    | 'm' => some .mirror
    | 'r' => some .raid
    | 's' => some .snapshot
    | 't' => some .thin
    | 'u' => some .unknown
    | 'v' => some .virtual
    | _ => none
  isCodeChar_letter t := by cases t <;> rfl
  ofLetter?_letter t := by cases t <;> rfl
  letter_of_ofLetter? h := by split at h <;> cases h <;> rfl

/-- The names of targets. -/
instance : Named TargetType where
  all :=
    [.noTarget, .cache, .mirror, .raid, .snapshot, .thin, .unknown, .virtual]
  name
    | .noTarget => "none"
    | .cache => "cache"
    | .mirror => "mirror"
    | .raid => "raid"
    | .snapshot => "snapshot"
    | .thin => "thin"
    | .unknown => "unknown"
    | .virtual => "virtual"
  find?_name a := by cases a <;> rfl

/-- What is wrong with a logical volume. -/
inductive Health where
  | ok
  | incomplete
  | unknown
  | raidRefreshNeeded
  | raidMismatchesExist
  | raidWriteMostly
  | thinFailed
  | thinPoolOutOfDataSpace
  | thinPoolMetadataReadOnly
  | writecacheError
  deriving DecidableEq, Repr

/-- The letters of states of health. -/
instance : Lettered Health where
  letter
    | .ok => '-'
    | .incomplete => 'p'
    | .unknown => 'X'
    | .raidRefreshNeeded => 'r'
    | .raidMismatchesExist => 'm'
    | .raidWriteMostly => 'w'
    | .thinFailed => 'F'
    | .thinPoolOutOfDataSpace => 'D'
    | .thinPoolMetadataReadOnly => 'M'
    | .writecacheError => 'E'
  ofLetter?
    | '-' => some .ok
    | 'p' => some .incomplete
    | 'X' => some .unknown
    | 'r' => some .raidRefreshNeeded
    | 'm' => some .raidMismatchesExist
    | 'w' => some .raidWriteMostly
    | 'F' => some .thinFailed
    | 'D' => some .thinPoolOutOfDataSpace
    | 'M' => some .thinPoolMetadataReadOnly
    | 'E' => some .writecacheError
    | _ => none
  isCodeChar_letter h := by cases h <;> rfl
  ofLetter?_letter h := by cases h <;> rfl
  letter_of_ofLetter? h := by split at h <;> cases h <;> rfl

/-- The names of states of health. -/
instance : Named Health where
  all :=
    [.ok, .incomplete, .unknown, .raidRefreshNeeded, .raidMismatchesExist, .raidWriteMostly,
     .thinFailed, .thinPoolOutOfDataSpace, .thinPoolMetadataReadOnly, .writecacheError]
  name
    | .ok => "ok"
    | .incomplete => "partial"
    | .unknown => "unknown"
    | .raidRefreshNeeded => "raid-refresh-needed"
    | .raidMismatchesExist => "raid-mismatches-exist"
    | .raidWriteMostly => "raid-write-mostly"
    | .thinFailed => "thin-failed"
    | .thinPoolOutOfDataSpace => "thin-pool-out-of-data-space"
    | .thinPoolMetadataReadOnly => "thin-pool-metadata-read-only"
    | .writecacheError => "writecache-error"
  find?_name a := by cases a <;> rfl

/-! ## Whole columns -/

/-- The column of a physical volume. -/
structure PvAttributes where
  allocatable : Bool
  used : Bool
  duplicate : Bool
  exported : Bool
  missing : Bool
  deriving DecidableEq, Repr

namespace PvAttributes

/-- The first place is `a`, `u`, `d` or a dash; at the other two everything but a dash counts. -/
def parse? (column : String) : Option PvAttributes :=
  match places column with
  | use :: exported :: missing :: _ =>
    if use = 'a' ∨ use = 'u' ∨ use = 'd' ∨ use = '-' then
      some ⟨use = 'a', use = 'u', use = 'd', exported ≠ '-', missing ≠ '-'⟩
    else none
  | _ => none

end PvAttributes

/-- The column of a volume group. -/
structure VgAttributes where
  writable : Bool
  resizable : Bool
  exported : Bool
  incomplete : Bool
  allocation : AllocationPolicy
  clustered : Bool
  shared : Bool
  deriving DecidableEq, Repr

namespace VgAttributes

/-- The first place is `w` or `r`, the fifth an allocation policy that is not inherited, the
sixth `c`, `s` or a dash; at the other three everything but a dash counts. -/
def parse? (column : String) : Option VgAttributes :=
  match places column with
  | access :: resizable :: exported :: lacking :: policy :: sharing :: _ => do
    let allocation ← Lettered.ofLetter? policy
    if (access = 'w' ∨ access = 'r') ∧ allocation ≠ .inherited
        ∧ (sharing = 'c' ∨ sharing = 's' ∨ sharing = '-') then
      some ⟨access = 'w', resizable ≠ '-', exported ≠ '-', lacking ≠ '-', allocation,
        sharing = 'c', sharing = 's'⟩
    else none
  | _ => none

/-- Whether the group may not be changed. -/
def isReadOnly (a : VgAttributes) : Bool := !a.writable

end VgAttributes

/-- The column of a logical volume. `allocation` is none for a dash; `zeroed` says that newly
allocated blocks are zeroed before use. -/
structure LvAttributes where
  volumeType : VolumeType
  permission : Permission
  allocation : Option AllocationPolicy
  fixedMinor : Bool
  state : VolumeState
  device : DeviceState
  targetType : TargetType
  zeroed : Bool
  health : Health
  skipActivation : Bool
  deriving DecidableEq, Repr

/-- A place that holds the letter `set` or a dash. -/
def flag? (set c : Char) : Option Bool :=
  if c = '-' then some false else if c = set then some true else none

/-- The policy of a logical volume, none for a dash. -/
def allocation? (c : Char) : Option (Option AllocationPolicy) :=
  if c = '-' then some none else (Lettered.ofLetter? c).map some

namespace LvAttributes

/-- All ten places must have a meaning. -/
def parse? (column : String) : Option LvAttributes :=
  match places column with
  | c₀ :: c₁ :: c₂ :: c₃ :: c₄ :: c₅ :: c₆ :: c₇ :: c₈ :: c₉ :: _ => do
    let volumeType ← Lettered.ofLetter? c₀
    let permission ← Lettered.ofLetter? c₁
    let allocation ← allocation? c₂
    let fixedMinor ← flag? 'm' c₃
    let state ← Lettered.ofLetter? c₄
    let device ← Lettered.ofLetter? c₅
    let targetType ← Lettered.ofLetter? c₆
    let zeroed ← flag? 'z' c₇
    let health ← Lettered.ofLetter? c₈
    let skipActivation ← flag? 'k' c₉
    some ⟨volumeType, permission, allocation, fixedMinor, state, device, targetType, zeroed,
      health, skipActivation⟩
  | _ => none

end LvAttributes

end StorageTopology.Lvm
