import StorageTopology.Proofs.Discovery.Sources
import StorageTopology.Proofs.Json.Record
import StorageTopology.Proofs.Traversal

/-!
# Kernel names and device paths of partitions

`lsblk` names a partition by its kernel name, which is the name of the disk with the ordinal after
it. The ordinal is taken from the two names, the device path is put together from the path of the
disk. Both use the same separator, because the path of the disk ends as its name does
(`DevicePath.separator_append`).

* `Numbered`: the partitions among the children are named by given ordinals. `exists_toDisk_iff`: a
  disk is read exactly if they are, and the ordinals differ.
* `shows_of_toDisk`: what each child is read as.
* `kernelPaths_of_parse`: so every partition that is read from an output has the device path that
  the kernel gives to its name.
-/

namespace StorageTopology

namespace Lsblk.Device

/-- The children that are partitions, in their order. -/
def parts (v : Device) : List Device := v.children.filter isPartition

/-- The partitions among the children have the kernel names of the ordinals `ns`, in this order. -/
structure Numbered (v : Device) (ns : List UInt32) : Prop where
  positive : 0 ∉ ns
  named : v.parts.map (fun child => .ok child.name) = ns.map (DevicePath.ofOrdinal v.name)

/-- `p` is what `child` is read as, on the disk `v` in the directory `dir`: it has the child's name,
the ordinal that the name is made of, and the path of that name in the directory. -/
structure Shows (v : Device) (dir : String) (child : Device) (p : Partition) : Prop where
  name : p.name = child.name
  number : DevicePath.ofOrdinal v.name p.number = .ok child.name
  path : p.path = some (dir ++ child.name)

variable {v child : Device} {p : Partition}

theorem of_toPartition {sep : String} (hsep : DevicePath.separator v.name = .ok sep)
    (h : toPartition v child = .ok p) :
    p.name = child.name ∧ DevicePath.ofOrdinal v.name p.number = .ok child.name := by
  unfold toPartition at h
  cases hordinal : DevicePath.ordinal? v.name child.name with
  | none => exact absurd (hordinal ▸ h) nofun
  | some n =>
    rw [hordinal] at h
    obtain rfl := (Except.ok.inj h).symm
    exact ⟨rfl, (DevicePath.ofOrdinal_eq_ok_iff hsep).mpr
      ((DevicePath.ordinal?_eq_some_iff hsep).mp hordinal)⟩

/-- Children that are read as partitions are named by the ordinals of these. -/
theorem map_names_of_mapM {sep : String} (hsep : DevicePath.separator v.name = .ok sep)
    {children : List Device} {ps : List Partition} (h : children.mapM (toPartition v) = .ok ps) :
    children.map (fun child => .ok child.name) =
      (ps.map (·.number)).map (DevicePath.ofOrdinal v.name) := by
  rw [List.map_map]
  refine map_eq_map_of_forall₂ ?_
  exact (forall₂_of_mapM h).imp fun child p hp => (of_toPartition hsep hp).2.symm

/-- **A device is read as a disk exactly if its partitions are named by ordinals that differ.** -/
theorem exists_toDisk_iff (hname : v.name ≠ "") (hpath : v.devicePath ≠ "") :
    (∃ d, v.toDisk = .ok d) ↔ ∃ ns, v.Numbered ns ∧ ns.Nodup := by
  obtain ⟨sep, hsep⟩ := DevicePath.exists_separator hname
  constructor
  · rintro ⟨d, hd⟩
    rcases v.toDisk_eq with ⟨cause, -, hfail⟩ | ⟨ps, raw, hps, -, rfl, hraw⟩
    · exact absurd (hfail ▸ hd) nofun
    · rw [hraw, mapError_eq_ok_iff] at hd
      obtain ⟨⟨hzero, hnodup⟩, -⟩ := Disk.settle_eq_ok_iff.mp hd
      exact ⟨raw.ordinals, ⟨hzero, map_names_of_mapM hsep hps⟩, hnodup⟩
  · rintro ⟨ns, hns, hnodup⟩
    obtain ⟨ps, hps, hnumbers⟩ := mapM_toPartition hsep hns.named
    rcases v.toDisk_eq with ⟨cause, hfail, -⟩ | ⟨ps', raw, hps', hraw, rfl, hdisk⟩
    · exact absurd (hfail ▸ hps) nofun
    · obtain rfl := Except.ok.inj (hps.symm.trans hps')
      have hordinals : raw.ordinals = ns := hnumbers
      obtain ⟨d, hd⟩ := Disk.exists_settle (hraw ▸ hpath) (hordinals ▸ hns.positive)
        (hordinals ▸ hnodup)
      exact ⟨d, hdisk.trans (mapError_eq_ok_iff.mpr hd)⟩

/-- **Every partition has the device path that the kernel gives to its name.** -/
theorem shows_of_toDisk {dir : String} {d : Disk} (hname : v.name ≠ "")
    (hpath : v.devicePath = dir ++ v.name) (hd : v.toDisk = .ok d) :
    ∃ ps, d.partitions.Perm ps ∧ List.Forall₂ (v.Shows dir) v.parts ps := by
  obtain ⟨sep, hsep⟩ := DevicePath.exists_separator hname
  rcases v.toDisk_eq with ⟨cause, -, hfail⟩ | ⟨ps, raw, hps, hraw, rfl, hdisk⟩
  · exact absurd (hfail ▸ hd) nofun
  · rw [hdisk, mapError_eq_ok_iff] at hd
    obtain ⟨sep', hsep', hperm⟩ := Disk.partitions_of_settle hd
    rw [hraw, hpath, DevicePath.separator_append hname, hsep] at hsep'
    obtain rfl := Except.ok.inj hsep'
    refine ⟨_, hperm, List.forall₂_map_right_iff.mpr ?_⟩
    refine (forall₂_of_mapM hps).imp fun child p hp => ?_
    obtain ⟨hpname, hnumber⟩ := of_toPartition hsep hp
    refine ⟨hpname, hnumber, ?_⟩
    -- The child's name is the disk's name, the separator and the ordinal.
    rw [((DevicePath.ofOrdinal_eq_ok_iff hsep).mp hnumber).2, Partition.located, hraw, hpath]
    simp only [String.append_assoc]

end Lsblk.Device

open Lsblk in
/-- **The kernel's names and paths**: an output with one disk whose path is its name in a directory
is accepted exactly if every child that is a partition has the name of an ordinal on that disk, and
the ordinals differ. There is then one partition for every such child, with the child's name, its
ordinal, and the path of the name in the directory. -/
theorem kernelPaths_of_parse {output dir : String} {v : Device}
    (hread : devices? output = some [v]) (hname : v.name ≠ "")
    (hpath : (v.path = none ∧ dir = "/dev/") ∨ v.path = some (dir ++ v.name)) :
    ((∃ d, Lsblk.parse output = .ok d) ↔ ∃ ns, v.Numbered ns ∧ ns.Nodup) ∧
      ∀ d, Lsblk.parse output = .ok d →
        ∃ ps, d.partitions.Perm ps ∧ List.Forall₂ (v.Shows dir) v.parts ps := by
  have hlocated : v.devicePath = dir ++ v.name := by
    rcases hpath with ⟨hnone, rfl⟩ | hsome
    · rw [Device.devicePath, hnone, Option.getD_none]
    · rw [Device.devicePath, hsome, Option.getD_some]
  have hparse : Lsblk.parse output = v.toDisk := by
    unfold Lsblk.parse
    rw [hread]
    rfl
  rw [hparse]
  refine ⟨Device.exists_toDisk_iff hname ?_, fun d => Device.shows_of_toDisk hname hlocated⟩
  simp [hlocated, hname]

/-- A disk outside of `/dev` whose name ends in a digit, with a loop device among its partitions. -/
def namespaceOutput : Json.Value :=
  let child (name kind : String) : Json.Value := .record [("name", .str name), ("type", .str kind)]
  .record [("blockdevices", .array [.record [("name", .str "nvme0n1"),
    ("path", .str "/run/nvme0n1"), ("children", .array
      [child "nvme0n1p3" "part", child "loop0" "loop", child "nvme0n1p1" "part"])]])]

theorem plain_namespaceOutput : namespaceOutput.Plain := by
  simp [namespaceOutput]

/-- The third partition is found at its kernel name in that directory. -/
theorem kernelPaths_of_parse_namespace : ∃ d, Lsblk.parse namespaceOutput.compact = .ok d ∧
    ∃ p ∈ d.partitions, p.name = "nvme0n1p3" ∧ p.path = some "/run/nvme0n1p3" := by
  have hview : (Lsblk.devices? namespaceOutput.compact).map (List.map fun v : Lsblk.Device =>
      (v.name, v.path, v.parts.map (·.name))) =
        some [("nvme0n1", some "/run/nvme0n1", ["nvme0n1p3", "nvme0n1p1"])] := by
    rw [Lsblk.devices?, Json.Value.parse?_compact plain_namespaceOutput]
    decide +kernel
  obtain ⟨vs, hread, hvs⟩ := Option.map_eq_some_iff.mp hview
  obtain ⟨v, rfl, hv⟩ := List.map_eq_singleton_iff.mp hvs
  simp only [Prod.mk.injEq] at hv
  obtain ⟨hname, hpath, hparts⟩ := hv
  have hnumbered : v.Numbered [3, 1] := by
    refine ⟨by decide, ?_⟩
    rw [hname, ← Function.comp_def, ← List.map_map, hparts]
    rfl
  have hplace : v.path = some ("/run/" ++ v.name) := by
    rw [hpath, hname]
    rfl
  obtain ⟨haccepted, hshows⟩ := kernelPaths_of_parse hread (by simp [hname]) (.inr hplace)
  obtain ⟨d, hd⟩ := haccepted.mpr ⟨_, hnumbered, by decide⟩
  obtain ⟨ps, hperm, hps⟩ := hshows d hd
  generalize v.parts = children at hparts hps
  cases hps with
  | nil => exact absurd hparts nofun
  | cons hfirst _ =>
    rw [List.map_cons, List.cons.injEq] at hparts
    refine ⟨d, hd, _, hperm.mem_iff.mpr List.mem_cons_self, ?_, ?_⟩
    · rw [hfirst.name, hparts.1]
    · rw [hfirst.path, hparts.1]
      rfl

end StorageTopology
