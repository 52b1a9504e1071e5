import Mathlib.Order.WellFounded
import StorageTopology.Proofs.Disk.Settled

/-!
# What is wrong with a disk that is not settled

`ordinalFault?` reports the first fault in the order of its list. Since `settle` sorts the
partitions before they are checked, the fault that it reports depends on the ordinals alone, not
on the order in which they are listed.

* `settle_of_zero`, `settle_of_repeated`, `settle_of_no_path`: ordinals that are zero come before
  ordinals that repeat, of which the least is reported, and these before a path that is missing.
* `settle_relisted`: **the order of the partitions has no part in the result**, whether that is a
  disk or a fault. Partitions keep their order only if their ordinals are equal, and then there is
  no disk.
-/

namespace StorageTopology.Disk

/-- `n` is the least of the ordinals that occur more than once in `ns`. -/
def IsLeastRepeated (ns : List UInt32) (n : UInt32) : Prop :=
  2 ≤ ns.count n ∧ ∀ m, 2 ≤ ns.count m → n ≤ m

section LeastRepeated

variable {ns ms seen : List UInt32} {n : UInt32} {path : String}

theorem IsLeastRepeated.perm (h : IsLeastRepeated ns n) (hperm : ns.Perm ms) :
    IsLeastRepeated ms n := by
  simpa only [IsLeastRepeated, hperm.count_eq] using h

theorem exists_isLeastRepeated (h : ¬ ns.Nodup) : ∃ n, IsLeastRepeated ns n := by
  obtain ⟨k, hk⟩ : ∃ k, 2 ≤ ns.count k := by
    rw [List.nodup_iff_count_le_one] at h
    obtain ⟨k, hk⟩ := not_forall.mp h
    exact ⟨k, by omega⟩
  obtain ⟨n, hn, hleast⟩ := (measure UInt32.toNat).wf.has_min {m | 2 ≤ ns.count m} ⟨k, hk⟩
  exact ⟨n, hn, fun m hm => UInt32.not_lt.mp (hleast m hm)⟩

/-- If those that were seen differ from each other, what repeats has not been seen only. -/
theorem mem_of_repeated (hseen : seen.Nodup) (h : 2 ≤ (seen ++ ns).count n) : n ∈ ns := by
  have honce := List.nodup_iff_count_le_one.mp hseen n
  rw [List.count_append] at h
  exact List.count_pos_iff.mp (by omega)

/-- Among positive ordinals in order, the first fault is the least that repeats. -/
theorem ordinalFault?_of_sorted : ∀ {ns seen : List UInt32}, ns.Pairwise (· ≤ ·) → 0 ∉ ns →
    seen.Nodup → IsLeastRepeated (seen ++ ns) n →
      ordinalFault? path seen ns = some (.duplicateOrdinal path n)
  | [], seen, _, _, hseen, hn => absurd (mem_of_repeated hseen hn.1) List.not_mem_nil
  | k :: ks, seen, hsorted, hzero, hseen, hn => by
    obtain ⟨hfirst, hsorted⟩ := List.pairwise_cons.mp hsorted
    rw [List.mem_cons, not_or] at hzero
    obtain ⟨hk, hzero⟩ := hzero
    rw [ordinalFault?, if_neg (Ne.symm hk)]
    by_cases hmem : k ∈ seen
    · have hrepeated : 2 ≤ (seen ++ k :: ks).count k := by
        have hbefore := List.count_pos_iff.mpr hmem
        rw [List.count_append, List.count_cons_self]
        omega
      have hge : k ≤ n := by
        rcases List.mem_cons.mp (mem_of_repeated hseen hn.1) with rfl | hrest
        · exact UInt32.le_refl _
        · exact hfirst n hrest
      rw [if_pos hmem, UInt32.le_antisymm (hn.2 k hrepeated) hge]
    · rw [if_neg hmem]
      exact ordinalFault?_of_sorted hsorted hzero (List.nodup_cons.mpr ⟨hmem, hseen⟩)
        (hn.perm List.perm_middle)

theorem ordinalFault?_of_zero (hsorted : ns.Pairwise (· ≤ ·)) (hzero : 0 ∈ ns) :
    ordinalFault? path [] ns = some (.invalidOrdinal path 0) := by
  cases ns with
  | nil => exact absurd hzero List.not_mem_nil
  | cons k ks =>
    have hk : k = 0 := by
      rcases List.mem_cons.mp hzero with hk | hrest
      · exact hk.symm
      · have hle := (List.pairwise_cons.mp hsorted).1 0 hrest
        exact UInt32.le_antisymm hle UInt32.zero_le
    rw [ordinalFault?, if_pos hk, hk]

end LeastRepeated

/-! ## The fault that is reported -/

variable {d : Disk}

theorem fillPaths_of_fault {fault : TopologyError}
    (h : ordinalFault? d.path [] d.ordinals = some fault) : d.fillPaths = .error fault := by
  unfold fillPaths validateOrdinals
  rw [show ordinalFault? d.path [] (d.partitions.map (·.number)) = some fault from h]
  rfl

theorem settle_of_zero (h : 0 ∈ d.ordinals) : d.settle = .error (.invalidOrdinal d.path 0) :=
  fillPaths_of_fault <| ordinalFault?_of_zero d.pairwise_le_ordinals_sortPartitions
    (d.perm_ordinals_sortPartitions.mem_iff.mpr h)

theorem settle_of_repeated {n : UInt32} (hzero : 0 ∉ d.ordinals)
    (hn : IsLeastRepeated d.ordinals n) : d.settle = .error (.duplicateOrdinal d.path n) := by
  have hperm := d.perm_ordinals_sortPartitions
  exact fillPaths_of_fault <| ordinalFault?_of_sorted d.pairwise_le_ordinals_sortPartitions
    (mt hperm.mem_iff.mp hzero) List.nodup_nil (hn.perm hperm.symm)

theorem fillPaths_of_no_path (hzero : 0 ∉ d.ordinals) (hnodup : d.ordinals.Nodup)
    (hpath : d.path = "") : d.fillPaths = .error (.path .emptyParent) := by
  unfold fillPaths
  rw [validateOrdinals_eq_ok_iff.mpr ⟨hzero, hnodup⟩, hpath]
  rfl

theorem settle_of_no_path (hzero : 0 ∉ d.ordinals) (hnodup : d.ordinals.Nodup)
    (hpath : d.path = "") : d.settle = .error (.path .emptyParent) := by
  have hperm := d.perm_ordinals_sortPartitions
  exact fillPaths_of_no_path (mt hperm.mem_iff.mp hzero) (hperm.nodup_iff.mpr hnodup) hpath

/-! ## The order of the partitions -/

section Relisted

variable {ps : List Partition}

theorem perm_ordinals_relisted (hperm : ps.Perm d.partitions) :
    ({ d with partitions := ps } : Disk).ordinals.Perm d.ordinals :=
  hperm.map _

/-- Partitions with different ordinals have one order. -/
theorem sortPartitions_relisted (hperm : ps.Perm d.partitions) (hnodup : d.ordinals.Nodup) :
    ({ d with partitions := ps } : Disk).sortPartitions = d.sortPartitions := by
  let e : Disk := { d with partitions := ps }
  have hsorted (c : Disk) :
      c.sortPartitions.partitions.Pairwise fun p q => p.number ≤ q.number :=
    List.pairwise_map.mp c.pairwise_le_ordinals_sortPartitions
  have hd : d.sortPartitions.partitions.Perm d.partitions := List.mergeSort_perm _ _
  have he : e.sortPartitions.partitions.Perm d.partitions :=
    (List.mergeSort_perm _ _).trans hperm
  have heq : e.sortPartitions.partitions = d.sortPartitions.partitions := by
    refine (he.trans hd.symm).eq_of_pairwise (fun p q hp hq hle hge => ?_) (hsorted e) (hsorted d)
    exact List.inj_on_of_nodup_map hnodup (he.mem_iff.mp hp) (hd.mem_iff.mp hq)
      (UInt32.le_antisymm hle hge)
  exact congrArg (fun qs => ({ d with partitions := qs } : Disk)) heq

end Relisted

/-- **The order of the partitions has no part in the result.** -/
theorem settle_relisted {e : Disk} (hrest : e = { d with partitions := e.partitions })
    (hperm : e.partitions.Perm d.partitions) : e.settle = d.settle := by
  have hordinals := perm_ordinals_relisted hperm
  rw [hrest]
  by_cases hzero : 0 ∈ d.ordinals
  · rw [settle_of_zero hzero, settle_of_zero (hordinals.mem_iff.mpr hzero)]
  · by_cases hnodup : d.ordinals.Nodup
    · unfold settle
      rw [sortPartitions_relisted hperm hnodup]
    · obtain ⟨n, hn⟩ := exists_isLeastRepeated hnodup
      rw [settle_of_repeated hzero hn,
        settle_of_repeated (mt hordinals.mem_iff.mp hzero) (hn.perm hordinals.symm)]

end StorageTopology.Disk
