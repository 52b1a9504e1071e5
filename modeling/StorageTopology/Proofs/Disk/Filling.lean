import StorageTopology.Disk.Fill
import StorageTopology.Proofs.Disk.Faults
import StorageTopology.Proofs.Traversal

/-!
# Filling in device paths

Device paths are filled in all at once or not at all: every ordinal is checked before the first
path is written.

* `on_fill`: what happens to a disk in place is what `fillPaths` answers; if that is a failure, the
  disk is as it was. `Partition.on_fill` says the same of a list of partitions.
* `FirstFaulty`: the partition that a failure is about. `fillPaths_eq_error_iff`: every failure has
  its `Fault`, and every fault fails.
* `Filled`: what success comes to. `Repathed.fillPaths_eq`: whatever paths there were before.
* `filling`: **filling is atomic and exact, and knows no history**.
-/

namespace StorageTopology

open InPlace

/-! ## A list of partitions -/

namespace Partition

theorem on_fill (parent : String) (ps : List Partition) :
    (fill parent).on ps =
      match fillPaths parent ps with
      | .ok qs => (.ok (), qs)
      | .error cause => (.error cause, ps) := by
  unfold fill fillPaths
  rw [on_bind, on_liftM]
  cases DevicePath.separator parent with
  | error cause => rfl
  | ok sep =>
    simp only [on_bind, on_get]
    cases ps.find? (·.number = 0) <;> rfl

/-- The partition `q` is `p` with the device path of its ordinal on the disk at `parent`. -/
def PathWritten (parent : String) (p q : Partition) : Prop :=
  ∃ path, DevicePath.ofOrdinal parent p.number = .ok path ∧ q = { p with path := some path }

theorem pathWritten_located {parent sep : String} {p : Partition}
    (hsep : DevicePath.separator parent = .ok sep) (hp : p.number ≠ 0) :
    PathWritten parent p (located parent sep p) := by
  have hpos : 0 < p.number.toNat := Nat.pos_of_ne_zero fun h => hp (UInt32.toNat_inj.mp h)
  exact ⟨_, (DevicePath.ofOrdinal_eq_ok_iff hsep).mpr ⟨hpos, rfl⟩, rfl⟩

theorem forall₂_pathWritten {parent sep : String} {ps : List Partition}
    (hsep : DevicePath.separator parent = .ok sep) (hps : ∀ p ∈ ps, p.number ≠ 0) :
    List.Forall₂ (PathWritten parent) ps (ps.map (located parent sep)) := by
  refine List.forall₂_map_right_iff.mpr (List.forall₂_same.mpr fun p hp => ?_)
  exact pathWritten_located hsep (hps p hp)

/-- What filling does to the list `ps`, by its answer and the list afterwards. -/
structure Filling (parent : String) (ps : List Partition) (answer : Except PathError Unit)
    (after : List Partition) : Prop where
  accepted : answer = .ok () ↔ parent ≠ "" ∧ ∀ p ∈ ps, p.number ≠ 0
  written : answer = .ok () → List.Forall₂ (PathWritten parent) ps after
  untouched : answer ≠ .ok () → after = ps

theorem filling_on_fill (parent : String) (ps : List Partition) :
    Filling parent ps ((fill parent).on ps).1 ((fill parent).on ps).2 := by
  rw [on_fill]
  cases hfill : fillPaths parent ps with
  | ok qs =>
    obtain ⟨hps, sep, hsep, rfl⟩ := fillPaths_eq_ok_iff.mp hfill
    have hparent : parent ≠ "" := by
      rintro rfl
      exact absurd hsep nofun
    exact ⟨by simpa using ⟨hparent, hps⟩, fun _ => forall₂_pathWritten hsep hps,
      fun h => absurd rfl h⟩
  | error cause =>
    refine ⟨iff_of_false nofun ?_, nofun, fun _ => rfl⟩
    rintro ⟨hparent, hps⟩
    obtain ⟨sep, hsep⟩ := DevicePath.exists_separator hparent
    exact absurd (hfill.symm.trans (fillPaths_eq_ok_iff.mpr ⟨hps, sep, hsep, rfl⟩)) nofun

end Partition

namespace Disk

variable {d e : Disk}

theorem on_fill (d : Disk) :
    fill.on d =
      match d.fillPaths with
      | .ok e => (.ok (), e)
      | .error cause => (.error cause, d) := by
  unfold fill fillPaths
  simp only [on_bind, on_get, on_liftM]
  cases d.validateOrdinals with
  | error fault => rfl
  | ok u =>
    simp only [Partition.on_fill, on_modify]
    cases Partition.fillPaths d.path d.partitions <;> rfl

/-! ## The first fault -/

/-- What is found in a list is found in its first part, or else in the rest after that part has
been seen. -/
theorem ordinalFault?_append (path : String) : ∀ (before ns seen : List UInt32),
    ordinalFault? path seen (before ++ ns) =
      (ordinalFault? path seen before).or (ordinalFault? path (before.reverse ++ seen) ns)
  | [], _, _ => rfl
  | n :: before, ns, seen => by
    rw [List.cons_append, ordinalFault?, ordinalFault?, ordinalFault?_append path before,
      List.reverse_cons, List.append_assoc, List.singleton_append]
    split_ifs <;> rfl

/-- The partition `p` is the first one whose ordinal is zero, or is that of a partition before it;
`before` are all that come before `p`. -/
structure FirstFaulty (d : Disk) (before : List Partition) (p : Partition) : Prop where
  listed : ∃ after, d.partitions = before ++ p :: after
  positive : 0 ∉ before.map (·.number)
  distinct : (before.map (·.number)).Nodup
  faulty : p.number = 0 ∨ p.number ∈ before.map (·.number)

section FirstFaulty

variable {before : List Partition} {p : Partition}

/-- What is reported is looked for from the first faulty partition on. -/
theorem FirstFaulty.ordinalFault?_eq (h : d.FirstFaulty before p) :
    ∃ after, ordinalFault? d.path [] d.ordinals =
      ordinalFault? d.path (before.map (·.number)).reverse (p.number :: after) := by
  obtain ⟨after, hlisted⟩ := h.listed
  have hnone : ordinalFault? d.path [] (before.map (·.number)) = none :=
    ordinalFault?_eq_none_iff.mpr ⟨h.positive, h.distinct, fun _ _ => List.not_mem_nil⟩
  refine ⟨after.map (·.number), ?_⟩
  rw [ordinals, hlisted, List.map_append, List.map_cons, ordinalFault?_append, hnone,
    Option.none_or, List.append_nil]

theorem fillPaths_of_zero (h : d.FirstFaulty before p) (hp : p.number = 0) :
    d.fillPaths = .error (.invalidOrdinal d.path 0) := by
  obtain ⟨after, hfault⟩ := h.ordinalFault?_eq
  refine fillPaths_of_fault (hfault.trans ?_)
  rw [ordinalFault?, if_pos hp, hp]

theorem fillPaths_of_repeated (h : d.FirstFaulty before p) (hp : p.number ≠ 0) :
    d.fillPaths = .error (.duplicateOrdinal d.path p.number) := by
  obtain ⟨after, hfault⟩ := h.ordinalFault?_eq
  have hseen : p.number ∈ (before.map (·.number)).reverse :=
    List.mem_reverse.mpr (h.faulty.resolve_left hp)
  refine fillPaths_of_fault (hfault.trans ?_)
  rw [ordinalFault?, if_neg hp, if_pos hseen]

/-- Ordinals that are not all positive and different have a first fault. -/
theorem exists_split_of_faulty : ∀ (ps before : List Partition),
    0 ∉ before.map (·.number) → (before.map (·.number)).Nodup →
    ¬(0 ∉ (before ++ ps).map (·.number) ∧ ((before ++ ps).map (·.number)).Nodup) →
      ∃ before' p after, before ++ ps = before' ++ p :: after ∧ 0 ∉ before'.map (·.number) ∧
        (before'.map (·.number)).Nodup ∧ (p.number = 0 ∨ p.number ∈ before'.map (·.number))
  | [], before, hpos, hdistinct, hfault => by
    rw [List.append_nil] at hfault
    exact absurd ⟨hpos, hdistinct⟩ hfault
  | p :: ps, before, hpos, hdistinct, hfault => by
    by_cases hp : p.number = 0 ∨ p.number ∈ before.map (·.number)
    · exact ⟨before, p, ps, rfl, hpos, hdistinct, hp⟩
    · obtain ⟨hzero, hnew⟩ := not_or.mp hp
      rw [List.append_cons] at hfault ⊢
      refine exists_split_of_faulty ps (before ++ [p]) ?_ ?_ hfault
      · simpa [Ne.symm hzero] using hpos
      · rw [List.map_append, List.nodup_append_comm]
        exact List.nodup_cons.mpr ⟨hnew, hdistinct⟩

theorem valid_of_forall_not_firstFaulty (h : ∀ before p, ¬d.FirstFaulty before p) :
    0 ∉ d.ordinals ∧ d.ordinals.Nodup := by
  by_contra hfaulty
  obtain ⟨before, p, after, hlisted, hpos, hdistinct, hp⟩ :=
    exists_split_of_faulty d.partitions [] List.not_mem_nil List.nodup_nil hfaulty
  exact h before p ⟨⟨after, hlisted⟩, hpos, hdistinct, hp⟩

/-- Why no paths are filled in. A missing path of the disk counts only if no ordinal is at fault. -/
inductive Fault (d : Disk) : TopologyError → Prop
  | zero {before : List Partition} {p : Partition} (h : d.FirstFaulty before p)
      (hp : p.number = 0) : Fault d (.invalidOrdinal d.path 0)
  | repeated {before : List Partition} {p : Partition} (h : d.FirstFaulty before p)
      (hp : p.number ≠ 0) : Fault d (.duplicateOrdinal d.path p.number)
  | pathless (h : ∀ before p, ¬d.FirstFaulty before p) (hpath : d.path = "") :
      Fault d (.path .emptyParent)

theorem exists_fillPaths_iff :
    (∃ e, d.fillPaths = .ok e) ↔ d.path ≠ "" ∧ 0 ∉ d.ordinals ∧ d.ordinals.Nodup := by
  constructor
  · rintro ⟨e, he⟩
    obtain ⟨hvalid, sep, hsep, -⟩ := fillPaths_eq_ok_iff.mp he
    refine ⟨fun hpath => ?_, hvalid⟩
    rw [hpath] at hsep
    exact absurd hsep nofun
  · rintro ⟨hpath, hvalid⟩
    obtain ⟨sep, hsep⟩ := DevicePath.exists_separator hpath
    exact ⟨_, fillPaths_eq_ok_iff.mpr ⟨hvalid, sep, hsep, rfl⟩⟩

theorem Fault.fillPaths_eq {cause : TopologyError} (h : d.Fault cause) :
    d.fillPaths = .error cause := by
  cases h with
  | zero h hp => exact fillPaths_of_zero h hp
  | repeated h hp => exact fillPaths_of_repeated h hp
  | pathless h hpath =>
    obtain ⟨hzero, hnodup⟩ := valid_of_forall_not_firstFaulty h
    exact fillPaths_of_no_path hzero hnodup hpath

/-- **Every disk has its paths filled in or a fault**, and which fault that is. -/
theorem fillPaths_eq_error_iff {cause : TopologyError} :
    d.fillPaths = .error cause ↔ d.Fault cause := by
  refine ⟨fun hfill => ?_, Fault.fillPaths_eq⟩
  obtain ⟨cause', hfault⟩ : ∃ cause', d.Fault cause' := by
    by_cases hfaulty : ∃ before p, d.FirstFaulty before p
    · obtain ⟨before, p, hp⟩ := hfaulty
      by_cases hzero : p.number = 0
      · exact ⟨_, .zero hp hzero⟩
      · exact ⟨_, .repeated hp hzero⟩
    · have hnone : ∀ before p, ¬d.FirstFaulty before p := fun before p hp => hfaulty ⟨_, _, hp⟩
      have hpath : d.path = "" := by
        by_contra hpath
        obtain ⟨e, he⟩ :=
          exists_fillPaths_iff.mpr ⟨hpath, valid_of_forall_not_firstFaulty hnone⟩
        exact absurd (hfill.symm.trans he) nofun
      exact ⟨_, .pathless hnone hpath⟩
  rwa [Except.error.inj (hfill.symm.trans (Fault.fillPaths_eq hfault))]

end FirstFaulty

/-! ## What is written -/

/-- The disk `e` is `d` with the device path of every partition. -/
structure Filled (d e : Disk) : Prop where
  rest : e = { d with partitions := e.partitions }
  paths : List.Forall₂ (Partition.PathWritten d.path) d.partitions e.partitions

/-- The disk `e` is `d` with other device paths, or without some. -/
structure Repathed (d e : Disk) : Prop where
  rest : e = { d with partitions := e.partitions }
  paths : List.Forall₂ (fun p q => q = { p with path := q.path }) d.partitions e.partitions

theorem filled_located {sep : String} (hsep : DevicePath.separator d.path = .ok sep)
    (hzero : 0 ∉ d.ordinals) : d.Filled (d.located sep) where
  rest := rfl
  paths := Partition.forall₂_pathWritten hsep fun _ hp heq =>
    hzero (heq ▸ List.mem_map_of_mem hp)

theorem located_sortPartitions (d : Disk) (sep : String) :
    (d.located sep).sortPartitions = d.sortPartitions.located sep := by
  have hpartitions := List.map_mergeSort (f := Partition.located d.path sep) (l := d.partitions)
    (r := fun p q => decide (p.number ≤ q.number)) (s := fun p q => decide (p.number ≤ q.number))
    fun _ _ _ _ => rfl
  exact congrArg (fun ps => ({ d with partitions := ps } : Disk)) hpartitions.symm

section Repathed

variable (h : d.Repathed e)
include h

theorem Repathed.path_eq : e.path = d.path := by rw [h.rest]

theorem Repathed.ordinals_eq : e.ordinals = d.ordinals := by
  refine (map_eq_map_of_forall₂ (h.paths.imp fun p q hq => ?_)).symm
  rw [hq]

/-- The paths that were there before are forgotten. -/
theorem Repathed.located_eq (sep : String) : e.located sep = d.located sep := by
  have hpartitions : d.partitions.map (Partition.located d.path sep) =
      e.partitions.map (Partition.located d.path sep) := by
    refine map_eq_map_of_forall₂ (h.paths.imp fun p q hq => ?_)
    rw [hq]
    rfl
  unfold located
  rw [h.path_eq, ← hpartitions, h.rest]

/-- **Earlier paths have no part in the answer**, neither in a disk nor in a failure. -/
theorem Repathed.fillPaths_eq : e.fillPaths = d.fillPaths := by
  by_cases hvalid : 0 ∉ d.ordinals ∧ d.ordinals.Nodup
  · have hvalid' : 0 ∉ e.ordinals ∧ e.ordinals.Nodup := by rwa [h.ordinals_eq]
    by_cases hpath : d.path = ""
    · rw [fillPaths_of_no_path hvalid.1 hvalid.2 hpath,
        fillPaths_of_no_path hvalid'.1 hvalid'.2 (h.path_eq.trans hpath)]
    · obtain ⟨sep, hsep⟩ := DevicePath.exists_separator hpath
      rw [fillPaths_eq_ok_iff.mpr ⟨hvalid, sep, hsep, rfl⟩]
      exact fillPaths_eq_ok_iff.mpr ⟨hvalid', sep, h.path_eq ▸ hsep, (h.located_eq sep).symm⟩
  · obtain ⟨fault, hfault⟩ : ∃ fault, ordinalFault? d.path [] d.ordinals = some fault := by
      refine Option.ne_none_iff_exists'.mp fun hnone => hvalid ?_
      obtain ⟨hzero, hnodup, -⟩ := ordinalFault?_eq_none_iff.mp hnone
      exact ⟨hzero, hnodup⟩
    rw [fillPaths_of_fault hfault]
    refine fillPaths_of_fault ?_
    rw [h.path_eq, h.ordinals_eq, hfault]

end Repathed

/-! ## Filling -/

/-- What filling does to the disk `d`, by its answer and the disk afterwards. -/
structure Filling (d : Disk) (answer : Except TopologyError Unit) (after : Disk) : Prop where
  accepted : answer = .ok () ↔ d.path ≠ "" ∧ 0 ∉ d.ordinals ∧ d.ordinals.Nodup
  /-- Every partition has the device path of its ordinal, and nothing else is changed. -/
  filled : answer = .ok () → d.Filled after
  /-- Filling once more changes nothing. -/
  again : answer = .ok () → fill.on after = (.ok (), after)
  /-- The partitions may be put in order before or after. -/
  sorted : answer = .ok () → fill.on d.sortPartitions = (.ok (), after.sortPartitions)
  /-- Other paths to begin with lead to the same answer, and to the same disk. -/
  forgotten : ∀ e, d.Repathed e → (fill.on e).1 = answer ∧ (answer = .ok () → (fill.on e).2 = after)
  untouched : answer ≠ .ok () → after = d
  failed : ∀ cause, answer = .error cause ↔ d.Fault cause
  /-- That an ordinal is zero is never found as late as when the paths are put together. -/
  checked : ∀ n, answer ≠ .error (.path (.invalidOrdinal n))

theorem on_fill_of_ok (h : d.fillPaths = .ok e) : fill.on d = (.ok (), e) := by
  rw [on_fill, h]

theorem on_fill_of_error {cause : TopologyError} (h : d.fillPaths = .error cause) :
    fill.on d = (.error cause, d) := by
  rw [on_fill, h]

theorem fillPaths_of_on_fill (h : fill.on d = (.ok (), e)) : d.fillPaths = .ok e := by
  rw [on_fill] at h
  cases hfill : d.fillPaths with
  | ok filled =>
    rw [hfill] at h
    rw [(Prod.mk.inj h).2]
  | error cause =>
    rw [hfill] at h
    cases h

theorem filling_of_ok (h : d.fillPaths = .ok e) : Filling d (.ok ()) e := by
  have haccepted := exists_fillPaths_iff.mp ⟨e, h⟩
  obtain ⟨hvalid, sep, hsep, rfl⟩ := fillPaths_eq_ok_iff.mp h
  have hperm := d.perm_ordinals_sortPartitions
  refine ⟨iff_of_true rfl haccepted, fun _ => filled_located hsep hvalid.1, fun _ => ?_,
    fun _ => ?_, fun e he => ?_, fun hne => absurd rfl hne,
    fun cause => iff_of_false nofun fun hfault => ?_, nofun⟩
  · refine on_fill_of_ok (fillPaths_eq_ok_iff.mpr ⟨?_, sep, hsep, (located_located d sep).symm⟩)
    rwa [ordinals_located]
  · refine on_fill_of_ok (fillPaths_eq_ok_iff.mpr ⟨?_, sep, hsep, d.located_sortPartitions sep⟩)
    rwa [hperm.mem_iff, hperm.nodup_iff]
  · rw [on_fill_of_ok (he.fillPaths_eq.trans h)]
    exact ⟨rfl, fun _ => rfl⟩
  · exact absurd (h.symm.trans (fillPaths_eq_error_iff.mpr hfault)) nofun

theorem filling_of_error {cause : TopologyError} (h : d.fillPaths = .error cause) :
    Filling d (.error cause) d := by
  have hrefused : ¬(d.path ≠ "" ∧ 0 ∉ d.ordinals ∧ d.ordinals.Nodup) := by
    rw [← exists_fillPaths_iff]
    rintro ⟨e, he⟩
    exact absurd (h.symm.trans he) nofun
  refine ⟨iff_of_false nofun hrefused, nofun, nofun, nofun, fun e he => ?_, fun _ => rfl,
    fun cause' => ?_, fun n hn => ?_⟩
  · rw [on_fill_of_error (he.fillPaths_eq.trans h)]
    exact ⟨rfl, nofun⟩
  · rw [← fillPaths_eq_error_iff, h]
    simp
  · have hfault := fillPaths_eq_error_iff.mp h
    rw [Except.error.inj hn] at hfault
    cases hfault

/-- **Filling is atomic and exact, and knows no history**, on disks and on lists of partitions. -/
theorem filling (d : Disk) (parent : String) (ps : List Partition) :
    Filling d (fill.on d).1 (fill.on d).2 ∧
      Partition.Filling parent ps ((Partition.fill parent).on ps).1
        ((Partition.fill parent).on ps).2 := by
  refine ⟨?_, Partition.filling_on_fill parent ps⟩
  cases h : d.fillPaths with
  | ok e =>
    rw [on_fill_of_ok h]
    exact filling_of_ok h
  | error cause =>
    rw [on_fill_of_error h]
    exact filling_of_error h

end Disk

end StorageTopology
