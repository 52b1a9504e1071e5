import Mathlib.Data.List.Nodup
import StorageTopology.Disk
import StorageTopology.Proofs.DevicePath.Ordinal

/-!
# Disks in their final form

`Disk.settle` orders the partitions of a disk by ordinal, checks the ordinals, and gives every
partition its device path.

* `validateOrdinals_eq_ok_iff`, `fillPaths_eq_ok_iff`, `settle_eq_ok_iff`: what each of the three
  accepts, and what it then answers.
* `pairwise_lt_ordinals_sortPartitions`: ordinals without repetition are strictly increasing once
  they are sorted.
* `WellFormed`: what holds of a disk in its final form. `wellFormed_of_settle`: whatever is settled
  is well formed, and settling it again changes nothing.
* `exists_settle`, `roll_eq_of_perm`: every disk with a path and ordinals that can be told apart is
  settled, and its ordinals and device paths do not depend on the order of the description.
-/

namespace StorageTopology

/-- The partition with the device path that it has on the disk at `parent`. -/
def Partition.located (parent sep : String) (p : Partition) : Partition :=
  { p with path := some (parent ++ sep ++ p.number.toNat.repr) }

theorem Partition.fillPaths_eq_ok_iff {parent : String} {ps qs : List Partition} :
    Partition.fillPaths parent ps = .ok qs ↔
      (∀ p ∈ ps, p.number ≠ 0) ∧
        ∃ sep, DevicePath.separator parent = .ok sep ∧ qs = ps.map (located parent sep) := by
  unfold fillPaths
  cases hsep : DevicePath.separator parent with
  | error cause => exact ⟨nofun, fun ⟨_, _, h, _⟩ => absurd h nofun⟩
  | ok sep =>
    simp only [bind, Except.bind]
    cases hzero : ps.find? (·.number = 0) with
    | some p =>
      have hp : p ∈ ps ∧ p.number = 0 :=
        ⟨List.mem_of_find?_eq_some hzero, by simpa using List.find?_some hzero⟩
      exact ⟨nofun, fun h => absurd hp.2 (h.1 p hp.1)⟩
    | none =>
      have hall : ∀ p ∈ ps, p.number ≠ 0 := by simpa using hzero
      constructor
      · rintro ⟨⟩
        exact ⟨hall, sep, rfl, rfl⟩
      · rintro ⟨_, _, ⟨⟩, rfl⟩
        rfl

namespace Disk

/-- The ordinals of the partitions, in their order. -/
def ordinals (d : Disk) : List UInt32 := d.partitions.map (·.number)

/-! ## Ordinals that can be told apart -/

/-- No fault is found among `ns` exactly if they are positive, differ from each other, and differ
from those seen before. -/
theorem ordinalFault?_eq_none_iff {path : String} : ∀ {ns seen : List UInt32},
    ordinalFault? path seen ns = none ↔ 0 ∉ ns ∧ ns.Nodup ∧ ∀ n ∈ ns, n ∉ seen
  | [], seen => by simp [ordinalFault?]
  | n :: ns, seen => by
    unfold ordinalFault?
    split_ifs with hzero hseen
    · simp [hzero]
    · simp [hseen]
    · rw [ordinalFault?_eq_none_iff, List.nodup_cons]
      simp only [List.mem_cons, not_or, forall_eq_or_imp]
      constructor
      · rintro ⟨hz, hnodup, hrest⟩
        exact ⟨⟨Ne.symm hzero, hz⟩, ⟨fun hmem => (hrest n hmem).1 rfl, hnodup⟩, hseen,
          fun m hm => (hrest m hm).2⟩
      · rintro ⟨⟨-, hz⟩, ⟨hmem, hnodup⟩, -, hrest⟩
        exact ⟨hz, hnodup, fun m hm => ⟨fun heq => hmem (heq ▸ hm), hrest m hm⟩⟩

/-- Validation accepts exactly the ordinals that are positive and do not repeat. -/
theorem validateOrdinals_eq_ok_iff {d : Disk} :
    d.validateOrdinals = .ok () ↔ 0 ∉ d.ordinals ∧ d.ordinals.Nodup := by
  have hfault : d.validateOrdinals = .ok () ↔ ordinalFault? d.path [] d.ordinals = none := by
    unfold validateOrdinals ordinals
    cases ordinalFault? d.path [] (d.partitions.map (·.number)) <;> simp
  rw [hfault, ordinalFault?_eq_none_iff]
  simp

/-! ## Device paths -/

/-- The disk with the device paths of its partitions. -/
def located (d : Disk) (sep : String) : Disk :=
  { d with partitions := d.partitions.map (Partition.located d.path sep) }

@[simp] theorem path_located (d : Disk) (sep : String) : (d.located sep).path = d.path := rfl

@[simp] theorem ordinals_located (d : Disk) (sep : String) :
    (d.located sep).ordinals = d.ordinals := by
  simp [ordinals, located, Partition.located]

@[simp] theorem located_located (d : Disk) (sep : String) :
    (d.located sep).located sep = d.located sep := by
  simp [located, Partition.located]

theorem fillPaths_eq_ok_iff {d e : Disk} :
    d.fillPaths = .ok e ↔
      (0 ∉ d.ordinals ∧ d.ordinals.Nodup) ∧
        ∃ sep, DevicePath.separator d.path = .ok sep ∧ e = d.located sep := by
  rw [← validateOrdinals_eq_ok_iff]
  unfold fillPaths
  cases hvalid : d.validateOrdinals with
  | error fault => exact ⟨nofun, fun h => absurd h.1 nofun⟩
  | ok u =>
    have hpos : ∀ p ∈ d.partitions, p.number ≠ 0 := by
      intro p hp hzero
      have hmem : (0 : UInt32) ∈ d.ordinals := hzero ▸ List.mem_map_of_mem hp
      exact (validateOrdinals_eq_ok_iff.mp hvalid).1 hmem
    simp only [bind, Except.bind, true_and]
    cases hfill : Partition.fillPaths d.path d.partitions with
    | error cause =>
      refine ⟨nofun, fun ⟨sep, hsep, _⟩ => ?_⟩
      rw [Partition.fillPaths_eq_ok_iff.mpr ⟨hpos, sep, hsep, rfl⟩] at hfill
      exact absurd hfill nofun
    | ok ps =>
      obtain ⟨-, sep, hsep, rfl⟩ := Partition.fillPaths_eq_ok_iff.mp hfill
      constructor
      · rintro ⟨⟩
        exact ⟨sep, hsep, rfl⟩
      · rintro ⟨sep', hsep', rfl⟩
        rw [hsep] at hsep'
        cases hsep'
        rfl

/-! ## Order -/

@[simp] theorem path_sortPartitions (d : Disk) : d.sortPartitions.path = d.path := rfl

theorem perm_ordinals_sortPartitions (d : Disk) : d.sortPartitions.ordinals.Perm d.ordinals :=
  (List.mergeSort_perm d.partitions _).map _

theorem decide_number_le_trans (p q r : Partition) (hpq : decide (p.number ≤ q.number))
    (hqr : decide (q.number ≤ r.number)) : decide (p.number ≤ r.number) := by
  simp only [decide_eq_true_eq] at *
  exact UInt32.le_trans hpq hqr

theorem decide_number_le_total (p q : Partition) :
    decide (p.number ≤ q.number) || decide (q.number ≤ p.number) := by
  simpa using UInt32.le_total p.number q.number

theorem pairwise_le_ordinals_sortPartitions (d : Disk) :
    d.sortPartitions.ordinals.Pairwise (· ≤ ·) := by
  have hsorted : d.sortPartitions.partitions.Pairwise fun p q => decide (p.number ≤ q.number) :=
    List.pairwise_mergeSort decide_number_le_trans decide_number_le_total d.partitions
  exact List.pairwise_map.mpr (hsorted.imp fun h => by simpa using h)

/-- Ordinals that do not repeat are strictly increasing once they are sorted. -/
theorem pairwise_lt_ordinals_sortPartitions {d : Disk} (h : d.ordinals.Nodup) :
    d.sortPartitions.ordinals.Pairwise (· < ·) := by
  have hnodup := d.perm_ordinals_sortPartitions.nodup_iff.mpr h
  exact (d.pairwise_le_ordinals_sortPartitions.and hnodup).imp fun ⟨hle, hne⟩ =>
    UInt32.lt_of_le_of_ne hle hne

/-- A disk whose ordinals are in order is not changed by sorting. -/
theorem sortPartitions_of_pairwise {d : Disk} (h : d.ordinals.Pairwise (· < ·)) :
    d.sortPartitions = d := by
  have hsorted : d.partitions.Pairwise fun p q => decide (p.number ≤ q.number) = true :=
    (List.pairwise_map.mp h).imp fun hlt => by simpa using UInt32.le_of_lt hlt
  unfold sortPartitions
  rw [List.mergeSort_of_pairwise hsorted]

theorem settle_eq_ok_iff {d e : Disk} :
    d.settle = .ok e ↔
      (0 ∉ d.ordinals ∧ d.ordinals.Nodup) ∧
        ∃ sep, DevicePath.separator d.path = .ok sep ∧ e = d.sortPartitions.located sep := by
  have hperm := d.perm_ordinals_sortPartitions
  unfold settle
  rw [fillPaths_eq_ok_iff, hperm.mem_iff, hperm.nodup_iff, path_sortPartitions]

/-! ## The final form -/

/-- What holds of a disk in its final form. -/
structure WellFormed (d : Disk) : Prop where
  path_ne_empty : d.path ≠ ""
  positive : ∀ p ∈ d.partitions, 1 ≤ p.number
  /-- The ordinals are strictly increasing. -/
  increasing : d.ordinals.Pairwise (· < ·)
  /-- Every partition has the device path that belongs to its ordinal. -/
  located : ∀ p ∈ d.partitions,
    ∃ path, p.path = some path ∧ DevicePath.ofOrdinal d.path p.number = .ok path
  paths_distinct : (d.partitions.map (·.path)).Nodup
  /-- A device path is taken apart to the ordinal of its partition. -/
  split : ∀ p ∈ d.partitions, ∀ path, p.path = some path →
    DevicePath.ordinal? d.path path = some p.number
  /-- Look-up by ordinal finds every partition, and that one only. -/
  found : ∀ k p, d.partition? k = some p ↔ p ∈ d.partitions ∧ p.number = k
  found_isSome : ∀ k, (d.partition? k).isSome ↔ k ∈ d.ordinals
  sorted : d.sortPartitions = d
  valid : d.validateOrdinals = .ok ()
  filled : d.fillPaths = .ok d

theorem found_isSome_iff {d : Disk} {k : UInt32} : (d.partition? k).isSome ↔ k ∈ d.ordinals := by
  simp [partition?, ordinals]

/-- If no ordinal repeats, a partition with the ordinal `k` is the one that is found. -/
theorem partition?_eq_some_iff {d : Disk} (h : d.ordinals.Nodup) {k : UInt32} {p : Partition} :
    d.partition? k = some p ↔ p ∈ d.partitions ∧ p.number = k := by
  constructor
  · intro hfound
    exact ⟨List.mem_of_find?_eq_some hfound, by simpa using List.find?_some hfound⟩
  · rintro ⟨hp, rfl⟩
    obtain ⟨q, hfound⟩ := Option.isSome_iff_exists.mp
      (found_isSome_iff.mpr (List.mem_map_of_mem hp))
    have hq : q ∈ d.partitions ∧ q.number = p.number :=
      ⟨List.mem_of_find?_eq_some hfound, by simpa using List.find?_some hfound⟩
    rw [hfound, List.inj_on_of_nodup_map h hq.1 hp hq.2]

/-- The ordinals of a disk are positive, each of them. -/
theorem toNat_number_pos {d : Disk} (hzero : 0 ∉ d.ordinals) {p : Partition}
    (hp : p ∈ d.partitions) : 0 < p.number.toNat := by
  refine Nat.pos_of_ne_zero fun heq => hzero ?_
  have hnumber : p.number = 0 := UInt32.toNat_inj.mp heq
  exact hnumber ▸ List.mem_map_of_mem hp

section Located

variable {d : Disk} {sep : String} {p : Partition}

theorem path_of_mem_located (hp : p ∈ (d.located sep).partitions) :
    p.path = some (d.path ++ sep ++ p.number.toNat.repr) := by
  obtain ⟨q, -, rfl⟩ := List.mem_map.mp hp
  rfl

theorem ordinal?_of_mem_located (hsep : DevicePath.separator d.path = .ok sep)
    (hzero : 0 ∉ d.ordinals) (hp : p ∈ (d.located sep).partitions) {path : String}
    (hpath : p.path = some path) : DevicePath.ordinal? d.path path = some p.number := by
  have hpos : 0 < p.number.toNat := by
    rw [← ordinals_located d sep] at hzero
    exact toNat_number_pos hzero hp
  rw [path_of_mem_located hp] at hpath
  obtain rfl := Option.some.inj hpath
  exact (DevicePath.ordinal?_eq_some_iff hsep).mpr ⟨hpos, rfl⟩

/-- Partitions with different ordinals have different device paths, since a path is taken apart to
one ordinal only. -/
theorem nodup_paths_located (hsep : DevicePath.separator d.path = .ok sep)
    (hzero : 0 ∉ d.ordinals) (hnodup : d.ordinals.Nodup) :
    ((d.located sep).partitions.map (·.path)).Nodup := by
  rw [← ordinals_located d sep] at hnodup
  refine List.pairwise_map.mpr (List.Pairwise.imp_of_mem ?_ (List.pairwise_map.mp hnodup))
  intro p q hp hq hne hsame
  have hpath := path_of_mem_located hp
  have hp' := ordinal?_of_mem_located hsep hzero hp hpath
  have hq' := ordinal?_of_mem_located hsep hzero hq (hsame ▸ hpath)
  exact hne (Option.some.inj (hp'.symm.trans hq'))

theorem wellFormed_located (hsep : DevicePath.separator d.path = .ok sep) (hzero : 0 ∉ d.ordinals)
    (hincreasing : d.ordinals.Pairwise (· < ·)) : (d.located sep).WellFormed := by
  have hnodup : d.ordinals.Nodup := hincreasing.imp UInt32.ne_of_lt
  have hzero' : 0 ∉ (d.located sep).ordinals := by rwa [ordinals_located]
  have hnodup' : (d.located sep).ordinals.Nodup := by rwa [ordinals_located]
  have hincreasing' : (d.located sep).ordinals.Pairwise (· < ·) := by rwa [ordinals_located]
  refine ⟨?_, ?_, hincreasing', ?_, nodup_paths_located hsep hzero hnodup, ?_, ?_,
    fun k => found_isSome_iff, sortPartitions_of_pairwise hincreasing',
    validateOrdinals_eq_ok_iff.mpr ⟨hzero', hnodup'⟩, ?_⟩
  · intro hempty
    rw [path_located] at hempty
    rw [hempty] at hsep
    exact absurd hsep nofun
  · exact fun p hp => DevicePath.one_le_iff.mpr (toNat_number_pos hzero' hp)
  · exact fun p hp => ⟨_, path_of_mem_located hp,
      (DevicePath.ofOrdinal_eq_ok_iff hsep).mpr ⟨toNat_number_pos hzero' hp, rfl⟩⟩
  · exact fun p hp path hpath => ordinal?_of_mem_located hsep hzero hp hpath
  · exact fun k p => partition?_eq_some_iff hnodup'
  · exact fillPaths_eq_ok_iff.mpr ⟨⟨hzero', hnodup'⟩, sep, hsep, (located_located d sep).symm⟩

end Located

/-- **Whatever is settled is well formed.** -/
theorem wellFormed_of_settle {d e : Disk} (h : d.settle = .ok e) : e.WellFormed := by
  obtain ⟨⟨hzero, hnodup⟩, sep, hsep, rfl⟩ := settle_eq_ok_iff.mp h
  refine wellFormed_located hsep ?_ (pairwise_lt_ordinals_sortPartitions hnodup)
  rwa [d.perm_ordinals_sortPartitions.mem_iff]

/-! ## What the final form depends on -/

/-- The ordinals and the device paths of the partitions, in their order. -/
def roll (d : Disk) : List (UInt32 × Option String) :=
  d.partitions.map fun p => (p.number, p.path)

theorem exists_settle {d : Disk} (hpath : d.path ≠ "") (hzero : 0 ∉ d.ordinals)
    (hnodup : d.ordinals.Nodup) : ∃ e, d.settle = .ok e := by
  obtain ⟨sep, hsep⟩ := DevicePath.exists_separator hpath
  exact ⟨_, settle_eq_ok_iff.mpr ⟨⟨hzero, hnodup⟩, sep, hsep, rfl⟩⟩

theorem roll_located (d : Disk) (sep : String) :
    (d.located sep).roll =
      d.ordinals.map fun n => (n, some (d.path ++ sep ++ n.toNat.repr)) := by
  simp [roll, ordinals, located, Partition.located]

theorem ordinals_sortPartitions_of_perm {d e : Disk} (h : d.ordinals.Perm e.ordinals) :
    d.sortPartitions.ordinals = e.sortPartitions.ordinals := by
  have hperm : d.sortPartitions.ordinals.Perm e.sortPartitions.ordinals :=
    (d.perm_ordinals_sortPartitions.trans h).trans e.perm_ordinals_sortPartitions.symm
  exact hperm.eq_of_pairwise (fun _ _ _ _ hle hge => UInt32.le_antisymm hle hge)
    d.pairwise_le_ordinals_sortPartitions e.pairwise_le_ordinals_sortPartitions

theorem path_of_settle {d e : Disk} (h : d.settle = .ok e) : e.path = d.path := by
  obtain ⟨-, sep, -, rfl⟩ := settle_eq_ok_iff.mp h
  rfl

theorem ordinals_of_settle {d e : Disk} (h : d.settle = .ok e) : e.ordinals.Perm d.ordinals := by
  obtain ⟨-, sep, -, rfl⟩ := settle_eq_ok_iff.mp h
  rw [ordinals_located]
  exact d.perm_ordinals_sortPartitions

/-- The partitions of a settled disk are those that were listed, with their device paths. -/
theorem partitions_of_settle {d e : Disk} (h : d.settle = .ok e) :
    ∃ sep, DevicePath.separator d.path = .ok sep ∧
      e.partitions.Perm (d.partitions.map (Partition.located d.path sep)) := by
  obtain ⟨-, sep, hsep, rfl⟩ := settle_eq_ok_iff.mp h
  exact ⟨sep, hsep, (List.mergeSort_perm _ _).map _⟩

/-- Two disks with one path and the same ordinals, in whatever order, have the same ordinals and
device paths once they are settled. -/
theorem roll_eq_of_perm {d d' e e' : Disk} (hpath : d.path = d'.path)
    (hperm : d.ordinals.Perm d'.ordinals) (h : d.settle = .ok e) (h' : d'.settle = .ok e') :
    e.roll = e'.roll := by
  obtain ⟨-, sep, hsep, rfl⟩ := settle_eq_ok_iff.mp h
  obtain ⟨-, sep', hsep', rfl⟩ := settle_eq_ok_iff.mp h'
  rw [← hpath, hsep] at hsep'
  obtain rfl := Except.ok.inj hsep'
  rw [roll_located, roll_located, ordinals_sortPartitions_of_perm hperm, path_sortPartitions,
    path_sortPartitions, hpath]

end Disk

end StorageTopology
