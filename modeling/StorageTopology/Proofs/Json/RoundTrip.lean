import StorageTopology.CommandLine.Run
import StorageTopology.Disk.Json
import StorageTopology.Lvm.Json
import StorageTopology.Proofs.Json.Record
import StorageTopology.Settings.Json

/-!
# Every record and every name makes the round trip

Headline result: `recordsRoundTrip`. Disks and partitions, volumes and their attributes, settings,
and the names in them are read back from both written forms, whatever their texts, their numbers,
the lengths of their lists and the fields that are absent. Regions are left out: their figures are
written with as many digits as it takes, which is not a matter of JSON.

A record is read back because its fields are, so the proofs follow how records are nested: the one
for a record names the ones for its fields.
-/

namespace StorageTopology

open Json

/-! ## Disks and partitions -/

theorem MediaFlags.readsBack : ReadsBack MediaFlags.toJson MediaFlags.ofJson? where
  plain m := .record (by simp [Value.Plain.bool])
  read_write m := by simp [toJson, ofJson?, ReadsBack.bool.read_write]
  read_null := rfl

theorem LvmMembership.readsBack : ReadsBack LvmMembership.toJson LvmMembership.ofJson? where
  plain m := .record (by simp [ReadsBack.str.plain_option])
  read_write m := by simp [toJson, ofJson?, ReadsBack.str.nullable_option]
  read_null := rfl

theorem BlockGeometry.readsBack : ReadsBack BlockGeometry.toJson BlockGeometry.ofJson? where
  plain g := .record (by simp [ReadsBack.word32.plain])
  read_write g := by simp [toJson, ofJson?, ReadsBack.word32.read_write]
  read_null := rfl

theorem Partition.readsBack : ReadsBack Partition.toJson Partition.ofJson? where
  plain p := .record (by
    simp [ReadsBack.str.plain, ReadsBack.word32.plain, ReadsBack.strs.plain,
      ReadsBack.str.plain_option, MediaFlags.readsBack.plain_option,
      LvmMembership.readsBack.plain_option])
  read_write p := by
    simp [toJson, ofJson?, ReadsBack.str.read_write, ReadsBack.word32.read_write,
      ReadsBack.strs.read_write, ReadsBack.str.nullable_option,
      MediaFlags.readsBack.nullable_option, LvmMembership.readsBack.nullable_option]
  read_null := rfl

theorem Disk.readsBack : ReadsBack Disk.toJson Disk.ofJson? where
  plain d := .record (by
    simp [ReadsBack.str.plain, ReadsBack.strs.plain, ReadsBack.word32.plain_option,
      BlockGeometry.readsBack.plain_option, MediaFlags.readsBack.plain_option,
      Partition.readsBack.list.plain])
  read_write d := by
    simp [toJson, ofJson?, ReadsBack.str.read_write, ReadsBack.strs.read_write,
      ReadsBack.word32.nullable_option, BlockGeometry.readsBack.nullable_option,
      MediaFlags.readsBack.nullable_option, Partition.readsBack.list.read_write]
  read_null := rfl

/-! ## Volumes -/

namespace Lvm

theorem PvAttributes.readsBack : ReadsBack PvAttributes.toJson PvAttributes.ofJson? where
  plain a := .record (by simp [ReadsBack.bool.plain])
  read_write a := by simp [toJson, ofJson?, ReadsBack.bool.read_write]
  read_null := rfl

theorem VgAttributes.readsBack : ReadsBack VgAttributes.toJson VgAttributes.ofJson? where
  plain a := .record (by simp [ReadsBack.bool.plain, ReadsBack.named.plain])
  read_write a := by
    simp [toJson, ofJson?, ReadsBack.bool.read_write, ReadsBack.named.read_write]
  read_null := rfl

theorem LvAttributes.readsBack : ReadsBack LvAttributes.toJson LvAttributes.ofJson? where
  plain a := .record (by
    simp [ReadsBack.bool.plain, ReadsBack.named.plain, ReadsBack.named.plain_option])
  read_write a := by
    simp [toJson, ofJson?, ReadsBack.bool.read_write, ReadsBack.named.read_write,
      ReadsBack.named.nullable_option]
  read_null := rfl

theorem PhysicalVolume.readsBack : ReadsBack PhysicalVolume.toJson PhysicalVolume.ofJson? where
  plain v := .record (by
    simp [ReadsBack.str.plain, ReadsBack.str.plain_option, ReadsBack.word64.plain,
      PvAttributes.readsBack.plain])
  read_write v := by
    simp [toJson, ofJson?, ReadsBack.str.read_write, ReadsBack.str.nullable_option,
      ReadsBack.word64.read_write, PvAttributes.readsBack.read_write]
  read_null := rfl

theorem VolumeGroup.readsBack : ReadsBack VolumeGroup.toJson VolumeGroup.ofJson? where
  plain v := .record (by
    simp [ReadsBack.str.plain, ReadsBack.word32.plain, ReadsBack.word64.plain,
      VgAttributes.readsBack.plain])
  read_write v := by
    simp [toJson, ofJson?, ReadsBack.str.read_write, ReadsBack.word32.read_write,
      ReadsBack.word64.read_write, VgAttributes.readsBack.read_write]
  read_null := rfl

theorem LogicalVolume.readsBack : ReadsBack LogicalVolume.toJson LogicalVolume.ofJson? where
  plain v := .record (by
    simp [ReadsBack.str.plain, ReadsBack.str.plain_option, ReadsBack.word64.plain,
      LvAttributes.readsBack.plain])
  read_write v := by
    simp [toJson, ofJson?, ReadsBack.str.read_write, ReadsBack.str.nullable_option,
      ReadsBack.word64.read_write, LvAttributes.readsBack.read_write]
  read_null := rfl

end Lvm

/-! ## Settings -/

theorem CaptureSettings.readsBack : ReadsBack CaptureSettings.toJson CaptureSettings.ofJson? where
  plain c := .record (by simp [ReadsBack.int32.plain])
  read_write c := by simp [toJson, ofJson?, ReadsBack.int32.read_write]
  read_null := rfl

theorem DiscoverySettings.readsBack :
    ReadsBack DiscoverySettings.toJson DiscoverySettings.ofJson? where
  plain d := .record (by simp [ReadsBack.str.plain, ReadsBack.named.plain])
  read_write d := by
    simp [toJson, ofJson?, ReadsBack.str.read_write, ReadsBack.named.read_write]
  read_null := rfl

theorem Settings.readsBack : ReadsBack Settings.toJson Settings.ofJson? where
  plain s := .record (by simp [CaptureSettings.readsBack.plain, DiscoverySettings.readsBack.plain])
  read_write s := by
    simp [toJson, ofJson?, CaptureSettings.readsBack.read_write,
      DiscoverySettings.readsBack.read_write]
  read_null := rfl

/-! ## All of them -/

open Lvm

/-- What the command prints of a disk as JSON is read back as the disk. -/
theorem decode_describe {a : CommandLine.Arguments} (ha : a.json = true) (d : Disk) :
    decode Disk.ofJson? (CommandLine.describe a d).2.1 = some d := by
  have hprinted : (CommandLine.describe a d).2.1 = d.toJson.pretty ++ "\n" := by
    simp [CommandLine.describe, ha]
  rw [hprinted, decode, Value.parse?_pretty_line (Disk.readsBack.plain d), Option.bind_some,
    Disk.readsBack.read_write]

/-- Every type that is written as JSON, apart from regions; and a disk as the command prints it. -/
structure RecordsRoundTrip : Prop where
  disk : RoundTrips Disk.toJson Disk.ofJson?
  partition : RoundTrips Partition.toJson Partition.ofJson?
  geometry : RoundTrips BlockGeometry.toJson BlockGeometry.ofJson?
  media : RoundTrips MediaFlags.toJson MediaFlags.ofJson?
  membership : RoundTrips LvmMembership.toJson LvmMembership.ofJson?
  pvAttributes : RoundTrips PvAttributes.toJson PvAttributes.ofJson?
  vgAttributes : RoundTrips VgAttributes.toJson VgAttributes.ofJson?
  lvAttributes : RoundTrips LvAttributes.toJson LvAttributes.ofJson?
  physicalVolume : RoundTrips PhysicalVolume.toJson PhysicalVolume.ofJson?
  volumeGroup : RoundTrips VolumeGroup.toJson VolumeGroup.ofJson?
  logicalVolume : RoundTrips LogicalVolume.toJson LogicalVolume.ofJson?
  settings : RoundTrips Settings.toJson Settings.ofJson?
  capture : RoundTrips CaptureSettings.toJson CaptureSettings.ofJson?
  discovery : RoundTrips DiscoverySettings.toJson DiscoverySettings.ofJson?
  source : RoundTrips (Value.ofNamed : DiscoverySource → Value) Value.named?
  allocation : RoundTrips (Value.ofNamed : AllocationPolicy → Value) Value.named?
  volumeType : RoundTrips (Value.ofNamed : VolumeType → Value) Value.named?
  permission : RoundTrips (Value.ofNamed : Permission → Value) Value.named?
  state : RoundTrips (Value.ofNamed : VolumeState → Value) Value.named?
  device : RoundTrips (Value.ofNamed : DeviceState → Value) Value.named?
  target : RoundTrips (Value.ofNamed : TargetType → Value) Value.named?
  health : RoundTrips (Value.ofNamed : Health → Value) Value.named?
  segment : RoundTrips (Value.ofNamed : SegmentType → Value) Value.named?
  printed : ∀ (a : CommandLine.Arguments) (d : Disk), a.json = true →
    decode Disk.ofJson? (CommandLine.describe a d).2.1 = some d

/-- **Every record and every name makes the round trip.** -/
theorem recordsRoundTrip : RecordsRoundTrip where
  disk := Disk.readsBack.roundTrips
  partition := Partition.readsBack.roundTrips
  geometry := BlockGeometry.readsBack.roundTrips
  media := MediaFlags.readsBack.roundTrips
  membership := LvmMembership.readsBack.roundTrips
  pvAttributes := PvAttributes.readsBack.roundTrips
  vgAttributes := VgAttributes.readsBack.roundTrips
  lvAttributes := LvAttributes.readsBack.roundTrips
  physicalVolume := PhysicalVolume.readsBack.roundTrips
  volumeGroup := VolumeGroup.readsBack.roundTrips
  logicalVolume := LogicalVolume.readsBack.roundTrips
  settings := Settings.readsBack.roundTrips
  capture := CaptureSettings.readsBack.roundTrips
  discovery := DiscoverySettings.readsBack.roundTrips
  source := ReadsBack.named.roundTrips
  allocation := ReadsBack.named.roundTrips
  volumeType := ReadsBack.named.roundTrips
  permission := ReadsBack.named.roundTrips
  state := ReadsBack.named.roundTrips
  device := ReadsBack.named.roundTrips
  target := ReadsBack.named.roundTrips
  health := ReadsBack.named.roundTrips
  segment := ReadsBack.named.roundTrips
  printed _ d ha := decode_describe ha d

end StorageTopology
