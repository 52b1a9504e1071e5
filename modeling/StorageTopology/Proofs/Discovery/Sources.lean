import StorageTopology.Discovery.Lsblk
import StorageTopology.Discovery.Parted
import StorageTopology.Proofs.Disk.Settled

/-!
# Two sources of one disk

`parted` gives the ordinals of partitions as numbers, `lsblk` gives them inside the kernel names of
partitions. Both descriptions are settled, so both lead to a disk in its final form.

* `wellFormed_of_parse`: every disk that is read from an output of either tool is well formed.
* `Parted.Table.Describes`, `Lsblk.Device.Describes`: a table, or a tree of devices, that describes
  the disk at a path with partitions of given ordinals.
* `same_disk_of_describes`: descriptions of the same disk with the same ordinals are both accepted
  and agree on the path of the disk and on the ordinals and the paths of its partitions.
-/

namespace StorageTopology

theorem mapError_eq_ok_iff {ε ε' α : Type} {f : ε → ε'} {x : Except ε α} {a : α} :
    x.mapError f = .ok a ↔ x = .ok a := by
  cases x <;> simp [Except.mapError]

/-! ## Reading a description -/

namespace Parted

theorem Table.toDisk_eq_settle (t : Table) :
    ∃ d : Disk, d.path = t.path ∧ d.ordinals = t.partitions.map (·.number) ∧
      t.toDisk = d.settle := by
  refine ⟨_, ?_, ?_, rfl⟩
  · rfl
  · exact List.map_map

theorem parse_eq_ok_iff {output : String} {d : Disk} :
    parse output = .ok d ↔ ∃ t, Table.ofOutput? output = some t ∧ t.toDisk = .ok d := by
  unfold parse
  cases Table.ofOutput? output with
  | none => simp
  | some t => simp [mapError_eq_ok_iff]

end Parted

namespace Lsblk

/-- The children that are partitions decide whether a device is read as a disk; if their ordinals
can be told from their names, the disk with these partitions is settled. -/
theorem Device.toDisk_eq (v : Device) :
    (∃ cause, (v.children.filter isPartition).mapM (toPartition v) = .error cause ∧
        v.toDisk = .error (.parse cause)) ∨
      ∃ (ps : List Partition) (d : Disk),
        (v.children.filter isPartition).mapM (toPartition v) = .ok ps ∧
          d.path = v.devicePath ∧ d.partitions = ps ∧
            v.toDisk = d.settle.mapError .topology := by
  unfold toDisk
  cases (v.children.filter isPartition).mapM (toPartition v) with
  | error cause => exact .inl ⟨cause, rfl, rfl⟩
  | ok ps => exact .inr ⟨ps, _, rfl, rfl, rfl, rfl⟩

theorem parse_eq_ok_iff {output : String} {d : Disk} :
    parse output = .ok d ↔ ∃ v, devices? output = some [v] ∧ v.toDisk = .ok d := by
  unfold parse
  cases devices? output with
  | none => simp
  | some vs =>
    match vs with
    | [] => simp [diskOfDevices]
    | [v] => simp [diskOfDevices]
    | v :: w :: vs => simp [diskOfDevices]

end Lsblk

/-- **Every disk that is read from an output is well formed**: it has a path; its ordinals are
positive and strictly increasing; every partition has the device path of its ordinal, which differs
from all others and is taken apart to that ordinal; look-up finds exactly the partitions that are
there; and sorting, validating or filling in the paths once more changes nothing. -/
theorem wellFormed_of_parse {output : String} {d : Disk}
    (h : Parted.parse output = .ok d ∨ Lsblk.parse output = .ok d) : d.WellFormed := by
  rcases h with h | h
  · obtain ⟨t, -, ht⟩ := Parted.parse_eq_ok_iff.mp h
    obtain ⟨raw, -, -, hraw⟩ := t.toDisk_eq_settle
    exact Disk.wellFormed_of_settle (hraw ▸ ht)
  · obtain ⟨v, -, hv⟩ := Lsblk.parse_eq_ok_iff.mp h
    rcases v.toDisk_eq with ⟨cause, -, hfail⟩ | ⟨ps, raw, -, -, -, hraw⟩
    · rw [hfail] at hv
      exact absurd hv nofun
    · rw [hraw] at hv
      exact Disk.wellFormed_of_settle (mapError_eq_ok_iff.mp hv)

/-- An output of `parted` that lists the third partition before the first. -/
theorem wellFormed_of_parse_unordered :
    let output := "\x7b\"disk\":\x7b\"path\":\"/dev/nvme0n1\",\"size\":\"9MiB\",\"partitions\":[" ++
      "\x7b\"number\":3,\"start\":\"5MiB\",\"end\":\"9MiB\",\"size\":\"4MiB\"\x7d," ++
      "\x7b\"number\":1,\"start\":\"1MiB\",\"end\":\"5MiB\",\"size\":\"4MiB\"\x7d]\x7d\x7d"
    ∃ d, Parted.parse output = .ok d ∧ d.ordinals.length = 2 ∧ d.WellFormed := by
  intro output
  let t : Parted.Table := ⟨"/dev/nvme0n1", "9MiB", "", "", "", none, none, none,
    [⟨3, "5MiB", "9MiB", "4MiB", "", "", none⟩, ⟨1, "1MiB", "5MiB", "4MiB", "", "", none⟩]⟩
  have ht : Parted.Table.ofOutput? output = some t := by decide +kernel
  obtain ⟨raw, hpath, hordinals, hsettle⟩ := t.toDisk_eq_settle
  have hordinals : raw.ordinals = [3, 1] := hordinals
  obtain ⟨d, hd⟩ := Disk.exists_settle (d := raw) (by rw [hpath]; decide)
    (by rw [hordinals]; decide) (by rw [hordinals]; decide)
  have hparse : Parted.parse output = .ok d :=
    Parted.parse_eq_ok_iff.mpr ⟨t, ht, hsettle.trans hd⟩
  refine ⟨d, hparse, ?_, wellFormed_of_parse (.inl hparse)⟩
  rw [(Disk.ordinals_of_settle hd).length_eq, hordinals]
  rfl

/-! ## Descriptions of one disk -/

/-- The table describes the disk at `path`; its entries have the given ordinals, in this order. -/
structure Parted.Table.Describes (t : Table) (path : String) (ordinals : List UInt32) : Prop where
  located : t.path = path
  numbered : t.partitions.map (·.number) = ordinals

/-- The device is the disk `name` at `path`; those of its children that are partitions have the
kernel names that belong to the given ordinals, in this order. Nothing is said of the others. -/
structure Lsblk.Device.Describes (v : Device) (name path : String) (ordinals : List UInt32) :
    Prop where
  named : v.name = name
  located : v.path = some path
  numbered : (v.children.filter isPartition).map (fun child => .ok child.name) =
    ordinals.map (DevicePath.ofOrdinal name)

namespace Lsblk.Device

/-- Children that are named after the disk are read as partitions with the ordinals of their
names. -/
theorem mapM_toPartition {v : Device} {sep : String}
    (hsep : DevicePath.separator v.name = .ok sep) : ∀ {children : List Device}
    {ordinals : List UInt32}, children.map (fun child => .ok child.name) =
        ordinals.map (DevicePath.ofOrdinal v.name) →
      ∃ ps, children.mapM (toPartition v) = .ok ps ∧ ps.map (·.number) = ordinals
  | [], [], _ => ⟨[], rfl, rfl⟩
  | [], _ :: _, h => absurd h nofun
  | _ :: _, [], h => absurd h nofun
  | child :: children, n :: ordinals, h => by
    obtain ⟨hname, hrest⟩ := List.cons.inj h
    obtain ⟨ps, hps, hnumbers⟩ := mapM_toPartition hsep hrest
    have hordinal : DevicePath.ordinal? v.name child.name = some n := by
      rw [DevicePath.ordinal?_eq_some_iff hsep, ← DevicePath.ofOrdinal_eq_ok_iff hsep]
      exact hname.symm
    obtain ⟨p, hp, hnumber⟩ : ∃ p, toPartition v child = .ok p ∧ p.number = n := by
      unfold toPartition
      rw [hordinal]
      exact ⟨_, rfl, rfl⟩
    refine ⟨p :: ps, ?_, ?_⟩
    · rw [List.mapM_cons, hp, hps]
      rfl
    · rw [List.map_cons, hnumber, hnumbers]

theorem Describes.toDisk_eq_settle {v : Device} {name path : String} {ordinals : List UInt32}
    (h : v.Describes name path ordinals) (hname : name ≠ "") :
    ∃ d : Disk, d.path = path ∧ d.ordinals = ordinals ∧
      v.toDisk = d.settle.mapError .topology := by
  obtain ⟨rfl, hpath, hchildren⟩ := h
  obtain ⟨sep, hsep⟩ := DevicePath.exists_separator hname
  obtain ⟨ps, hps, hnumbers⟩ := mapM_toPartition hsep hchildren
  rcases v.toDisk_eq with ⟨cause, hfail, -⟩ | ⟨ps', d, hps', hd, rfl, hdisk⟩
  · rw [hps] at hfail
    exact absurd hfail nofun
  · rw [hps] at hps'
    obtain rfl := Except.ok.inj hps'
    refine ⟨d, ?_, hnumbers, hdisk⟩
    rw [hd, devicePath, hpath]
    rfl

end Lsblk.Device

/-- **Both sources lead to one disk**: a table and a tree of devices that describe the disk at one
path, with the same ordinals in whatever order and with any other children among the partitions,
are both accepted, and so are the outputs that they are read from. The two disks have the same path
and the same ordinals with the same device paths. -/
theorem same_disk_of_describes {dir name : String} {ordinals ordinals' : List UInt32}
    (hname : name ≠ "") (hzero : 0 ∉ ordinals) (hnodup : ordinals.Nodup)
    (hperm : ordinals.Perm ordinals') {t : Parted.Table} (ht : t.Describes (dir ++ name) ordinals)
    {v : Lsblk.Device} (hv : v.Describes name (dir ++ name) ordinals') :
    ∃ d e : Disk,
      (t.toDisk = .ok d ∧ ∀ output, Parted.Table.ofOutput? output = some t →
        Parted.parse output = .ok d) ∧
      (v.toDisk = .ok e ∧ ∀ output, Lsblk.devices? output = some [v] →
        Lsblk.parse output = .ok e) ∧
      d.path = dir ++ name ∧ e.path = dir ++ name ∧ d.roll = e.roll ∧
        d.ordinals.Perm ordinals := by
  have hpath : dir ++ name ≠ "" := by simp [hname]
  obtain ⟨raw, hraw, hnumbers, htable⟩ := t.toDisk_eq_settle
  obtain ⟨raw', hraw', hnumbers', hdevice⟩ := hv.toDisk_eq_settle hname
  rw [ht.located] at hraw
  rw [ht.numbered] at hnumbers
  obtain ⟨d, hd⟩ : ∃ d, raw.settle = .ok d :=
    Disk.exists_settle (hraw ▸ hpath) (hnumbers ▸ hzero) (hnumbers ▸ hnodup)
  obtain ⟨e, he⟩ : ∃ e, raw'.settle = .ok e := by
    refine Disk.exists_settle (hraw' ▸ hpath) ?_ ?_
    · rwa [hnumbers', ← hperm.mem_iff]
    · rwa [hnumbers', ← hperm.nodup_iff]
  have hdisk : t.toDisk = .ok d := htable.trans hd
  have hdisk' : v.toDisk = .ok e := hdevice.trans (mapError_eq_ok_iff.mpr he)
  refine ⟨d, e, ⟨hdisk, fun output h => Parted.parse_eq_ok_iff.mpr ⟨t, h, hdisk⟩⟩,
    ⟨hdisk', fun output h => Lsblk.parse_eq_ok_iff.mpr ⟨v, h, hdisk'⟩⟩,
    (Disk.path_of_settle hd).trans hraw, (Disk.path_of_settle he).trans hraw', ?_, ?_⟩
  · refine Disk.roll_eq_of_perm (hraw.trans hraw'.symm) ?_ hd he
    rwa [hnumbers, hnumbers']
  · have hordinals := Disk.ordinals_of_settle hd
    rwa [hnumbers] at hordinals

/-- A disk whose name ends in a digit, with a loop device among its partitions. -/
theorem same_disk_of_describes_unordered :
    let t : Parted.Table := ⟨"/dev/nvme0n1", "9MiB", "", "", "", none, none, none,
      [⟨3, "5MiB", "9MiB", "4MiB", "", "", none⟩, ⟨1, "1MiB", "5MiB", "4MiB", "", "", none⟩]⟩
    let child (name kind : String) : Lsblk.Device :=
      ⟨name, none, none, false, false, kind, none, [], none, none, none, none, []⟩
    let v : Lsblk.Device := ⟨"nvme0n1", some "/dev/nvme0n1", none, false, false, "disk", none, [],
      none, none, none, none,
      [child "nvme0n1p1" "part", child "loop0" "loop", child "nvme0n1p3" "part"]⟩
    t.Describes ("/dev/" ++ "nvme0n1") [3, 1] ∧
      v.Describes "nvme0n1" ("/dev/" ++ "nvme0n1") [1, 3] ∧
      ∃ d e, t.toDisk = .ok d ∧ v.toDisk = .ok e ∧ d.roll = e.roll ∧ d.ordinals.length = 2 := by
  intro t child v
  have ht : t.Describes ("/dev/" ++ "nvme0n1") [3, 1] := ⟨rfl, rfl⟩
  have hv : v.Describes "nvme0n1" ("/dev/" ++ "nvme0n1") [1, 3] := ⟨rfl, rfl, rfl⟩
  obtain ⟨d, e, ⟨hd, -⟩, ⟨he, -⟩, -, -, hroll, hordinals⟩ :=
    same_disk_of_describes (by decide) (by decide) (by decide) (List.Perm.swap 1 3 []) ht hv
  exact ⟨ht, hv, d, e, hd, he, hroll, hordinals.length_eq⟩

end StorageTopology
