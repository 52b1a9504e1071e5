import Mathlib.Data.List.DropRight
import StorageTopology.Proofs.DevicePath.Collisions
import StorageTopology.Proofs.Disk.Filling

/-!
# Display names of partitions without a name

A partition without a name is displayed by the last part of its device path. What stands behind the
disk's path has no slash, so this is the device path that the partition would have on a disk whose
path is the last part alone.

* `SplitsOff`: a path up to its last slash, and what stands behind it. `exists_splitsOff`,
  `SplitsOff.baseName_eq`: every path is split in this way, and what stands behind is `baseName`.
* `SplitsOff.append`: what is appended to a path without a slash is appended to its last part.
* `displayName_of_mem_unnamed`: so the display name is the last part of the disk's path with the
  separator and the ordinal.
* `identifying_of_fill`: **display names tell partitions without a name from each other**.
-/

namespace StorageTopology

namespace DevicePath

/-! ## The last slash of a path -/

/-- The last slash of `path` ends `directory`, and what stands behind it is `base`. A path without
a slash is all `base`. -/
structure SplitsOff (path directory base : String) : Prop where
  eq_append : path = directory ++ base
  directory_ends : directory = "" ∨ ∃ parents, directory = parents ++ "/"
  no_slash : '/' ∉ base.toList

theorem exists_splitsOff (path : String) :
    ∃ directory, SplitsOff path directory (baseName path) := by
  refine ⟨String.ofList (path.toList.rdropWhile (· ≠ '/')), ?_, ?_, ?_⟩
  · rw [← String.toList_inj, String.toList_append, String.toList_ofList, baseName,
      String.toList_ofList]
    exact List.rdropWhile_append_rtakeWhile.symm
  · by_cases hnil : path.toList.rdropWhile (· ≠ '/') = []
    · exact .inl (congrArg String.ofList hnil)
    · have hlast := List.rdropWhile_last_not (· ≠ '/') path.toList hnil
      have hconcat := List.dropLast_append_getLast hnil
      have hslash : (path.toList.rdropWhile (· ≠ '/')).getLast hnil = '/' := by simpa using hlast
      rw [hslash] at hconcat
      refine .inr ⟨String.ofList (path.toList.rdropWhile (· ≠ '/')).dropLast, ?_⟩
      rw [← String.toList_inj, String.toList_append, String.toList_ofList, String.toList_ofList]
      exact hconcat.symm
  · intro hslash
    rw [baseName, String.toList_ofList] at hslash
    simpa using List.mem_rtakeWhile_imp hslash

section SplitsOff

variable {path directory base tail sep : String} (h : SplitsOff path directory base)
include h

/-- A path has one last part. -/
theorem SplitsOff.baseName_eq : baseName path = base := by
  have hbase : ∀ c ∈ base.toList.reverse, decide (c ≠ '/') = true := fun c hc => by
    simpa using ne_of_mem_of_not_mem (List.mem_reverse.mp hc) h.no_slash
  have hdirectory : directory.toList.reverse.takeWhile (· ≠ '/') = [] := by
    rcases h.directory_ends with rfl | ⟨parents, rfl⟩
    · rfl
    · simp
  rw [baseName, h.eq_append, String.toList_append, List.reverse_append,
    List.takeWhile_append_of_pos hbase, hdirectory, List.append_nil, List.reverse_reverse,
    String.ofList_toList]

theorem SplitsOff.append (htail : '/' ∉ tail.toList) :
    SplitsOff (path ++ tail) directory (base ++ tail) where
  eq_append := by rw [h.eq_append, String.append_assoc]
  directory_ends := h.directory_ends
  no_slash := by
    rw [String.toList_append, List.mem_append, not_or]
    exact ⟨h.no_slash, htail⟩

/-- A slash at the end of a path is not a digit. -/
theorem SplitsOff.separator_eq_empty (hbase : base = "") (hsep : separator path = .ok sep) :
    sep = "" := by
  rcases h.directory_ends with rfl | ⟨parents, rfl⟩
  · -- Without a directory the path is empty, and has no separator.
    rw [h.eq_append, hbase] at hsep
    exact absurd hsep nofun
  · rcases separator_cases hsep with ⟨⟨c, hc, hdigit⟩, -⟩ | ⟨-, hempty⟩
    · rw [h.eq_append, hbase, String.append_empty, String.toList_append,
        show "/".toList = ['/'] from rfl, List.getLast?_concat] at hc
      obtain rfl := Option.some.inj hc
      exact absurd hdigit (by decide)
    · exact hempty

end SplitsOff

/-- What stands behind the path of a disk has no slash. -/
theorem slash_not_mem_tail {path sep : String} (hsep : separator path = .ok sep) (n : Nat) :
    '/' ∉ (sep ++ n.repr).toList := by
  rw [String.toList_append, List.mem_append, not_or]
  refine ⟨?_, Decimal.not_mem_repr (by decide) n⟩
  rcases separator_cases hsep with ⟨-, rfl⟩ | ⟨-, rfl⟩ <;> decide

end DevicePath

open DevicePath

namespace Disk

/-! ## Partitions without a name -/

/-- The partitions without a name, in their order. -/
def unnamed (d : Disk) : List Partition := d.partitions.filter (·.name = "")

section Located

variable {d : Disk} {directory base sep : String} {p : Partition}

theorem ordinals_unnamed_located (d : Disk) (sep : String) :
    (d.located sep).unnamed.map (·.number) = d.unnamed.map (·.number) := by
  unfold unnamed located
  rw [List.filter_map, List.map_map]
  rfl

variable (hsplit : SplitsOff d.path directory base) (hsep : separator d.path = .ok sep)
include hsplit hsep

/-- An unnamed partition is displayed by its device path, from behind the last slash of the path of
the disk. -/
theorem displayName_of_mem_unnamed (hp : p ∈ (d.located sep).unnamed) :
    p.displayName = base ++ sep ++ p.number.toNat.repr := by
  obtain ⟨hmem, hname⟩ := List.mem_filter.mp hp
  have hbase := (hsplit.append (slash_not_mem_tail hsep p.number.toNat)).baseName_eq
  rw [← String.append_assoc, ← String.append_assoc] at hbase
  unfold Partition.displayName
  rw [if_neg (by simpa using hname), path_of_mem_located hmem]
  exact hbase

theorem path_eq_append_displayName (hp : p ∈ (d.located sep).unnamed) :
    p.path = some (directory ++ p.displayName) := by
  rw [displayName_of_mem_unnamed hsplit hsep hp, path_of_mem_located (List.mem_of_mem_filter hp),
    hsplit.eq_append, String.append_assoc, String.append_assoc, String.append_assoc]

/-- Device paths differ, and these have one directory. -/
theorem nodup_displayNames (hzero : 0 ∉ d.ordinals) (hnodup : d.ordinals.Nodup) :
    ((d.located sep).unnamed.map Partition.displayName).Nodup := by
  have hpaths : ((d.located sep).unnamed.map (·.path)).Nodup :=
    (nodup_paths_located hsep hzero hnodup).sublist (List.filter_sublist.map _)
  have hcut : (d.located sep).unnamed.map (·.path) =
      ((d.located sep).unnamed.map Partition.displayName).map fun name =>
        some (directory ++ name) := by
    rw [List.map_map]
    exact List.map_congr_left fun p hp => path_eq_append_displayName hsplit hsep hp
  rw [hcut] at hpaths
  exact hpaths.of_map

end Located

/-- How the partitions without a name are displayed on the disk `e`, which is `d` with device
paths. The path of the disk is `base` behind `directory`. -/
structure Identifying (directory base : String) (d e : Disk) : Prop where
  kept : e.unnamed.map (·.number) = d.unnamed.map (·.number)
  nonempty : ∀ p ∈ e.unnamed, p.displayName ≠ ""
  no_slash : ∀ p ∈ e.unnamed, '/' ∉ p.displayName.toList
  distinct : (e.unnamed.map Partition.displayName).Nodup
  /-- The display name lacks the directory of the device path, and nothing else. -/
  path : ∀ p ∈ e.unnamed, p.path = some (directory ++ p.displayName)
  /-- It is the device path below `base`, and is taken apart there. -/
  below_base : base ≠ "" → ∀ p ∈ e.unnamed,
    ofOrdinal base p.number = .ok p.displayName ∧ ordinal? base p.displayName = some p.number
  /-- Below a path that ends in a slash it is the ordinal. -/
  below_slash : base = "" → ∀ p ∈ e.unnamed, p.displayName = p.number.toNat.repr

theorem identifying_located {d : Disk} {directory base sep : String}
    (hsplit : SplitsOff d.path directory base) (hsep : separator d.path = .ok sep)
    (hzero : 0 ∉ d.ordinals) (hnodup : d.ordinals.Nodup) :
    Identifying directory base d (d.located sep) := by
  have hname : ∀ p ∈ (d.located sep).unnamed,
      p.displayName = base ++ sep ++ p.number.toNat.repr := fun _ =>
    displayName_of_mem_unnamed hsplit hsep
  refine ⟨ordinals_unnamed_located d sep, fun p hp => ?_, fun p hp => ?_,
    nodup_displayNames hsplit hsep hzero hnodup, fun p => path_eq_append_displayName hsplit hsep,
    fun hbase p hp => ?_, fun hbase p hp => ?_⟩
  · rw [hname p hp, ne_eq, ← String.toList_eq_nil_iff, String.toList_append, Nat.toList_repr]
    exact List.append_ne_nil_of_right_ne_nil _ Nat.toDigits_ne_nil
  · rw [hname p hp, String.append_assoc]
    exact (hsplit.append (slash_not_mem_tail hsep p.number.toNat)).no_slash
  · rw [hsplit.eq_append, separator_append hbase] at hsep
    rw [← ordinals_located d sep] at hzero
    have hpos := toNat_number_pos hzero (List.mem_of_mem_filter hp)
    exact ⟨(ofOrdinal_eq_ok_iff hsep).mpr ⟨hpos, hname p hp⟩,
      (ordinal?_eq_some_iff hsep).mpr ⟨hpos, hname p hp⟩⟩
  · rw [hname p hp, hbase, hsplit.separator_eq_empty hbase hsep, String.empty_append,
      String.empty_append]

/-- **Display names tell partitions without a name from each other** once device paths are filled
in, wherever the last slash of the disk's path is. -/
theorem identifying_of_fill {d e : Disk} (h : fill.on d = (.ok (), e)) :
    (∃ directory base, SplitsOff e.path directory base) ∧
      ∀ directory base, SplitsOff e.path directory base → Identifying directory base d e := by
  obtain ⟨⟨hzero, hnodup⟩, sep, hsep, rfl⟩ := fillPaths_eq_ok_iff.mp (fillPaths_of_on_fill h)
  obtain ⟨directory, hsplit⟩ := exists_splitsOff d.path
  exact ⟨⟨directory, _, hsplit⟩, fun _ _ hsplit => identifying_located hsplit hsep hzero hnodup⟩

/-- Of three partitions one has a name. The others are displayed with the separator of the disk. -/
theorem identifying_of_fill_namespace :
    let root := { Partition.ofNumber 1 with name := "root" }
    let d : Disk := ⟨"/dev/nvme0n1", "", "", "", "", none, none, none,
      [Partition.ofNumber 12, root, Partition.ofNumber 2], []⟩
    let e : Disk := { d with partitions :=
      [{ Partition.ofNumber 12 with path := some "/dev/nvme0n1p12" },
        { root with path := some "/dev/nvme0n1p1" },
        { Partition.ofNumber 2 with path := some "/dev/nvme0n1p2" }] }
    fill.on d = (.ok (), e) ∧ SplitsOff e.path "/dev/" "nvme0n1" ∧
      Identifying "/dev/" "nvme0n1" d e ∧
        e.unnamed.map Partition.displayName = ["nvme0n1p12", "nvme0n1p2"] := by
  intro root d e
  have hfill : fill.on d = (.ok (), e) := on_fill_of_ok (by decide)
  have hsplit : SplitsOff e.path "/dev/" "nvme0n1" := ⟨rfl, .inr ⟨"/dev", rfl⟩, by decide⟩
  exact ⟨hfill, hsplit, (identifying_of_fill hfill).2 _ _ hsplit, by decide⟩

end Disk

end StorageTopology
