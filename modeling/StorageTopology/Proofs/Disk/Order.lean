import StorageTopology.Proofs.Disk.Settled

/-!
# Order and look-up

An ordinal may repeat, or be zero, before a disk is settled, and look-up then finds the first of
several partitions. Sorting leaves that answer alone since it is stable.

* `withOrdinal_sortPartitions`: the partitions with one ordinal keep their order. This is all that
  look-up reads, see `partition?_eq_head?`.
* `eq_sortPartitions`: order and these lists determine the sorted disk. Whatever commutes with
  sorting is proved from this, with no look at how the list is sorted.
* `Edits`: which partition is edited, and what it leaves as it was. `Edits.withOrdinal_eq` is what
  an edit that keeps the ordinal does to the partitions with one ordinal.
* `stablySorted`: what sorting is for a disk of any kind.
-/

namespace StorageTopology

section EditFirst

variable {α : Type} {p : α → Bool} {f : α → α}

theorem editFirst_append {before after : List α} {a : α} (hbefore : ∀ b ∈ before, ¬p b)
    (ha : p a) : editFirst p f (before ++ a :: after) = some (before ++ f a :: after) := by
  induction before with
  | nil => rw [List.nil_append, editFirst, if_pos ha, List.nil_append]
  | cons b before ih =>
    obtain ⟨hb, hbefore⟩ := List.forall_mem_cons.mp hbefore
    rw [List.cons_append, editFirst, if_neg hb, ih hbefore, Option.map_some, List.cons_append]

theorem editFirst_eq_none {l : List α} (h : ∀ a ∈ l, ¬p a) : editFirst p f l = none := by
  induction l with
  | nil => rfl
  | cons a l ih =>
    obtain ⟨ha, hl⟩ := List.forall_mem_cons.mp h
    rw [editFirst, if_neg ha, ih hl, Option.map_none]

end EditFirst

namespace Disk

variable {d e : Disk} {k : UInt32} {f : Partition → Partition} {p : Partition}

/-! ## The partitions with one ordinal -/

/-- The partitions with the ordinal `k`, in their order. -/
def withOrdinal (d : Disk) (k : UInt32) : List Partition :=
  d.partitions.filter (·.number = k)

theorem partition?_eq_head? (d : Disk) (k : UInt32) : d.partition? k = (d.withOrdinal k).head? :=
  List.head?_filter.symm

/-- **Sorting is stable.** The partitions with one ordinal are in order as they stand, so that they
are a sublist of the sorted ones; and no others of those have the ordinal. -/
theorem withOrdinal_sortPartitions (d : Disk) (k : UInt32) :
    d.sortPartitions.withOrdinal k = d.withOrdinal k := by
  have hordered : (d.withOrdinal k).Pairwise fun p q => decide (p.number ≤ q.number) := by
    refine List.pairwise_of_forall_mem_list fun p hp q hq => ?_
    have hpk : p.number = k := by simpa using (List.mem_filter.mp hp).2
    have hqk : q.number = k := by simpa using (List.mem_filter.mp hq).2
    simp [hpk, hqk]
  have hsublist : (d.withOrdinal k).Sublist d.sortPartitions.partitions :=
    List.sublist_mergeSort decide_number_le_trans decide_number_le_total hordered
      List.filter_sublist
  have hkept : (d.withOrdinal k).Sublist (d.sortPartitions.withOrdinal k) := by
    have hfilter := hsublist.filter (·.number = k)
    simpa [withOrdinal] using hfilter
  have hlength : (d.withOrdinal k).length = (d.sortPartitions.withOrdinal k).length :=
    ((List.mergeSort_perm d.partitions _).filter _).length_eq.symm
  exact (hkept.eq_of_length hlength).symm

/-- **Look-up does not see the order** of partitions with different ordinals. -/
theorem partition?_sortPartitions (d : Disk) (k : UInt32) :
    d.sortPartitions.partition? k = d.partition? k := by
  rw [partition?_eq_head?, partition?_eq_head?, withOrdinal_sortPartitions]

/-- The first of the partitions is the first one with its ordinal, and none has a smaller one. -/
theorem head_eq_of_filter {q : Partition} {ps qs : List Partition}
    (hps : ∀ r ∈ ps, p.number ≤ r.number) (hqs : ∀ r ∈ qs, q.number ≤ r.number)
    (h : ∀ k, (p :: ps).filter (·.number = k) = (q :: qs).filter (·.number = k)) : p = q := by
  have hmem : ∀ r, r ∈ p :: ps ↔ r ∈ q :: qs := fun r => by
    have hfilter := congrArg (r ∈ ·) (h r.number)
    simpa using hfilter
  have hle : p.number ≤ q.number := by
    rcases List.mem_cons.mp ((hmem q).mpr List.mem_cons_self) with rfl | hq
    · exact UInt32.le_refl _
    · exact hps q hq
  have hge : q.number ≤ p.number := by
    rcases List.mem_cons.mp ((hmem p).mp List.mem_cons_self) with rfl | hp
    · exact UInt32.le_refl _
    · exact hqs p hp
  have hnumber : q.number = p.number := UInt32.le_antisymm hge hle
  have hfirst := h p.number
  rw [List.filter_cons_of_pos (by simp), List.filter_cons_of_pos (by simpa using hnumber)] at hfirst
  exact (List.cons.inj hfirst).1

/-- Partitions in order are determined by those with one ordinal, for every ordinal. -/
theorem eq_of_filter : ∀ {ps qs : List Partition},
    (ps.map (·.number)).Pairwise (· ≤ ·) → (qs.map (·.number)).Pairwise (· ≤ ·) →
      (∀ k : UInt32, ps.filter (·.number = k) = qs.filter (·.number = k)) → ps = qs
  | [], [], _, _, _ => rfl
  | [], q :: _, _, _, h => absurd (h q.number) (by simp)
  | p :: _, [], _, _, h => absurd (h p.number) (by simp)
  | p :: ps, q :: qs, hps, hqs, h => by
    obtain ⟨hp, hps'⟩ := List.pairwise_cons.mp hps
    obtain ⟨hq, hqs'⟩ := List.pairwise_cons.mp hqs
    obtain rfl := head_eq_of_filter (fun r hr => hp _ (List.mem_map_of_mem hr))
      (fun r hr => hq _ (List.mem_map_of_mem hr)) h
    refine congrArg (p :: ·) (eq_of_filter hps' hqs' fun k => ?_)
    have hk := h k
    by_cases hpk : p.number = k
    · rw [List.filter_cons_of_pos (by simpa using hpk),
        List.filter_cons_of_pos (by simpa using hpk)] at hk
      exact (List.cons.inj hk).2
    · rwa [List.filter_cons_of_neg (by simpa using hpk),
        List.filter_cons_of_neg (by simpa using hpk)] at hk

/-- **Order and stability determine the sorted disk.** -/
theorem eq_sortPartitions (hrest : e = { d with partitions := e.partitions })
    (hordered : e.ordinals.Pairwise (· ≤ ·)) (h : ∀ k, e.withOrdinal k = d.withOrdinal k) :
    e = d.sortPartitions := by
  have hpartitions : e.partitions = d.sortPartitions.partitions :=
    eq_of_filter hordered d.pairwise_le_ordinals_sortPartitions fun k =>
      (h k).trans (d.withOrdinal_sortPartitions k).symm
  rw [hrest, hpartitions]
  rfl

theorem sortPartitions_sortPartitions (d : Disk) :
    d.sortPartitions.sortPartitions = d.sortPartitions :=
  (eq_sortPartitions rfl d.pairwise_le_ordinals_sortPartitions fun _ => rfl).symm

/-! ## Edits -/

/-- What comes of editing the partition with the ordinal `k` by `f`: nothing if there is none, or
else the disk with `f p` in the place of the first one, `p`. -/
inductive Edits (d : Disk) (k : UInt32) (f : Partition → Partition) :
    Option Partition → Option Disk → Prop
  | missing (hnone : ∀ p ∈ d.partitions, p.number ≠ k) : Edits d k f none none
  | first {before after : List Partition} {p : Partition}
      (hlisted : d.partitions = before ++ p :: after) (hp : p.number = k)
      (hbefore : ∀ q ∈ before, q.number ≠ k) :
      Edits d k f (some p) (some { d with partitions := before ++ f p :: after })

/-- The edited partition is the one that is looked up. -/
theorem edits (d : Disk) (k : UInt32) (f : Partition → Partition) :
    d.Edits k f (d.partition? k) (d.editPartition? k f) := by
  unfold editPartition?
  cases hfound : d.partition? k with
  | none =>
    have hnone : ∀ p ∈ d.partitions, p.number ≠ k := by simpa [partition?] using hfound
    rw [editFirst_eq_none (by simpa using hnone)]
    exact .missing hnone
  | some p =>
    obtain ⟨hpk, before, after, hlisted, hnot⟩ := List.find?_eq_some_iff_append.mp hfound
    have hp : p.number = k := by simpa using hpk
    have hbefore : ∀ q ∈ before, q.number ≠ k := by simpa using hnot
    have hedited : editFirst (·.number = k) f d.partitions = some (before ++ f p :: after) := by
      rw [hlisted]
      exact editFirst_append (by simpa using hbefore) hpk
    rw [hedited]
    exact .first hlisted hp hbefore

theorem Edits.eq_none {r : Option Disk} (h : d.Edits k f none r) : r = none := by
  cases h
  rfl

theorem Edits.exists_eq_some {r : Option Disk} (h : d.Edits k f (some p) r) :
    ∃ e, r = some e := by
  cases h
  exact ⟨_, rfl⟩

section Edits

variable (h : d.Edits k f (some p) (some e))
include h

theorem Edits.rest_eq : e = { d with partitions := e.partitions } := by
  cases h
  rfl

variable (hf : (f p).number = k)
include hf

theorem Edits.ordinals_eq : e.ordinals = d.ordinals := by
  cases h with
  | first hlisted hp hbefore => simp [ordinals, hlisted, hp, hf]

/-- Only the first partition with the ordinal `k` is another one. -/
theorem Edits.withOrdinal_eq (j : UInt32) :
    e.withOrdinal j = if j = k then (d.withOrdinal j).modifyHead f else d.withOrdinal j := by
  cases h with
  | @first before after p hlisted hp hbefore =>
    unfold withOrdinal
    rw [hlisted, List.filter_append, List.filter_append]
    by_cases hj : j = k
    · have hnone : before.filter (·.number = j) = [] := by simpa [hj] using hbefore
      rw [if_pos hj, hnone, List.filter_cons_of_pos (by simp [hf, hj]),
        List.filter_cons_of_pos (by simp [hp, hj])]
      rfl
    · have hk : k ≠ j := Ne.symm hj
      rw [if_neg hj, List.filter_cons_of_neg (by simpa [hf] using hk),
        List.filter_cons_of_neg (by simpa [hp] using hk)]

end Edits

/-- **An edit that keeps the ordinal can be made before or after sorting.** -/
theorem editPartition?_sortPartitions (hf : ∀ p, d.partition? k = some p → (f p).number = k) :
    d.sortPartitions.editPartition? k f = (d.editPartition? k f).map sortPartitions := by
  have hedit := d.edits k f
  have hedit' := d.sortPartitions.edits k f
  rw [partition?_sortPartitions] at hedit'
  cases hfound : d.partition? k with
  | none =>
    rw [hfound] at hedit hedit'
    rw [hedit.eq_none, hedit'.eq_none, Option.map_none]
  | some p =>
    rw [hfound] at hedit hedit'
    obtain ⟨e, he⟩ := hedit.exists_eq_some
    obtain ⟨e', he'⟩ := hedit'.exists_eq_some
    rw [he] at hedit
    rw [he'] at hedit'
    have hrest : e' = { e with partitions := e'.partitions } := by
      rw [hedit.rest_eq]
      exact hedit'.rest_eq
    have hordered : e'.ordinals.Pairwise (· ≤ ·) := by
      rw [hedit'.ordinals_eq (hf p hfound)]
      exact d.pairwise_le_ordinals_sortPartitions
    rw [he, he', Option.map_some, eq_sortPartitions hrest hordered fun j => ?_]
    rw [hedit.withOrdinal_eq (hf p hfound), hedit'.withOrdinal_eq (hf p hfound),
      withOrdinal_sortPartitions]

/-! ## Sorting -/

/-- The disk `e` is `d` with its partitions sorted. Ordinals may be zero, and may repeat. -/
structure StablySorted (d e : Disk) : Prop where
  rest : e = { d with partitions := e.partitions }
  permuted : e.partitions.Perm d.partitions
  ordered : e.partitions.Pairwise (·.number ≤ ·.number)
  /-- Partitions with one ordinal keep their order. -/
  stable : ∀ k : UInt32,
    e.partitions.filter (·.number = k) = d.partitions.filter (·.number = k)
  found : ∀ k, e.partition? k = d.partition? k
  /-- The partition that look-up finds in `d` is the one that is edited, in both of them. -/
  edited : ∀ k f, d.Edits k f (d.partition? k) (d.editPartition? k f) ∧
    e.Edits k f (d.partition? k) (e.editPartition? k f)
  /-- An edit that keeps the ordinal can be made before or after. -/
  commutes : ∀ k f, (∀ p, d.partition? k = some p → (f p).number = k) →
    (d.editPartition? k f).map sortPartitions = e.editPartition? k f
  again : e.sortPartitions = e

/-- **Sorting never changes what a look-up finds.** -/
theorem stablySorted (d : Disk) : StablySorted d d.sortPartitions where
  rest := rfl
  permuted := List.mergeSort_perm d.partitions _
  ordered := List.pairwise_map.mp d.pairwise_le_ordinals_sortPartitions
  stable := d.withOrdinal_sortPartitions
  found := d.partition?_sortPartitions
  edited k f := by
    have hedit' := d.sortPartitions.edits k f
    rw [partition?_sortPartitions] at hedit'
    exact ⟨d.edits k f, hedit'⟩
  commutes _ _ hf := (editPartition?_sortPartitions hf).symm
  again := d.sortPartitions_sortPartitions

end Disk

end StorageTopology
