import StorageTopology.Lvm.Report
import StorageTopology.Proofs.Disk.Settled
import StorageTopology.Proofs.Traversal

/-!
# Partitions that are physical volumes

`annotate` looks the device path of every partition up in a report of physical volumes.

* `forall₂_of_parseReport`: a report has one volume for each of its rows.
* `Marked`: what becomes of one partition. `forall₂_marked_annotate`: it becomes of every one.
* `Remarked.annotate_eq`: memberships from before have no part in the result, unless there is no
  device path.
* `membership?_of_perm`: nor has the order of the volumes, if no device is among them twice.
* `memberships_of_report`: **what a report makes of a disk**, and of one whose device paths have
  been filled in.
-/

namespace StorageTopology.Lvm

/-! ## Rows and volumes -/

/-- The device of a row. -/
def Row.device (r : Row) : String := String.ofList r.first

/-- The volume group of a row. -/
def Row.group (r : Row) : Option String := nonEmpty r.second

/-- The volume is on the device of the row, and in its group. -/
structure Row.Tells (r : Row) (v : PhysicalVolume) : Prop where
  device : v.device = r.device
  group : v.vgName = r.group

theorem Row.tells_of_ofRow {r : Row} {v : PhysicalVolume} (h : PhysicalVolume.ofRow r = .ok v) :
    r.Tells v := by
  obtain ⟨attributes, -, h⟩ := exists_of_bind_eq_ok h
  obtain ⟨size, -, h⟩ := exists_of_bind_eq_ok h
  obtain ⟨free, -, h⟩ := exists_of_bind_eq_ok h
  obtain rfl := Except.ok.inj h
  exact ⟨rfl, rfl⟩

theorem forall₂_of_parseReport {output : String} {vs : List PhysicalVolume}
    (h : PhysicalVolume.parseReport output = .ok vs) :
    List.Forall₂ Row.Tells (rows output) vs :=
  (forall₂_of_mapM h).imp fun _ _ => Row.tells_of_ofRow

/-! ## Looking up a device path -/

section Membership

variable {vs ws : List PhysicalVolume} {rs : List Row} {path : String}

theorem isSome_membership?_iff : (membership? vs path).isSome ↔ ∃ v ∈ vs, v.device = path := by
  simp [membership?]

theorem isSome_membership?_iff_row (h : List.Forall₂ Row.Tells rs vs) :
    (membership? vs path).isSome ↔ ∃ r ∈ rs, r.device = path := by
  rw [isSome_membership?_iff]
  constructor
  · rintro ⟨v, hv, rfl⟩
    obtain ⟨r, hr, hrv⟩ := exists_partner h.flip hv
    exact ⟨r, hr, hrv.device.symm⟩
  · rintro ⟨r, hr, rfl⟩
    obtain ⟨v, hv, hrv⟩ := exists_partner h hr
    exact ⟨v, hv, hrv.device⟩

/-- The first row with a device path decides. -/
theorem membership?_of_first {before after : List Row} {r : Row}
    (h : List.Forall₂ Row.Tells (before ++ r :: after) vs)
    (hfirst : ∀ r' ∈ before, r'.device ≠ r.device) :
    membership? vs r.device = some ⟨r.group⟩ := by
  induction before generalizing vs with
  | nil =>
    obtain ⟨v, vs, hv, -, rfl⟩ := List.forall₂_cons_left_iff.mp h
    rw [membership?, List.find?_cons_of_pos (by simp [hv.device]), Option.map_some, hv.group]
  | cons r' before ih =>
    obtain ⟨v, vs, hv, hrest, rfl⟩ := List.forall₂_cons_left_iff.mp h
    have hne : v.device ≠ r.device := hv.device ▸ hfirst r' List.mem_cons_self
    rw [membership?, List.find?_cons_of_neg (by simp [hne])]
    exact ih hrest fun s hs => hfirst s (.tail _ hs)

/-- If no device occurs twice, there is only one volume to be found. -/
theorem membership?_eq_some_iff (hnodup : (vs.map (·.device)).Nodup) {m : LvmMembership} :
    membership? vs path = some m ↔ ∃ v ∈ vs, v.device = path ∧ ⟨v.vgName⟩ = m := by
  rw [membership?, Option.map_eq_some_iff]
  constructor
  · rintro ⟨v, hv, rfl⟩
    exact ⟨v, List.mem_of_find?_eq_some hv, by simpa using List.find?_some hv, rfl⟩
  · rintro ⟨v, hv, rfl, rfl⟩
    obtain ⟨w, hw⟩ : ∃ w, vs.find? (·.device = v.device) = some w :=
      Option.isSome_iff_exists.mp (by simpa using ⟨v, hv, rfl⟩)
    have hsame : w.device = v.device := by simpa using List.find?_some hw
    refine ⟨w, hw, ?_⟩
    rw [List.inj_on_of_nodup_map hnodup (List.mem_of_find?_eq_some hw) hv hsame]

/-- Then the order of the volumes has no part in what is found. -/
theorem membership?_of_perm (hperm : ws.Perm vs) (hnodup : (vs.map (·.device)).Nodup)
    (path : String) : membership? ws path = membership? vs path := by
  have hnodup' : (ws.map (·.device)).Nodup := (hperm.map _).nodup_iff.mpr hnodup
  refine Option.ext fun m => ?_
  rw [membership?_eq_some_iff hnodup', membership?_eq_some_iff hnodup]
  simp only [hperm.mem_iff]

end Membership

/-! ## Marking partitions -/

/-- What becomes of the partition `p` by the rows `rs` of a report: only its membership is changed;
it has one exactly if a row has its device path, and then that of the first such row. Without a
device path it keeps the membership that it had. -/
structure Marked (rs : List Row) (p q : Partition) : Prop where
  rest : q = { p with lvm := q.lvm }
  pathless : p.path = none → q.lvm = p.lvm
  member : ∀ path, p.path = some path → (q.lvm.isSome ↔ ∃ r ∈ rs, r.device = path)
  first : ∀ before r after, rs = before ++ r :: after → p.path = some r.device →
    (∀ r' ∈ before, r'.device ≠ r.device) → q.lvm = some ⟨r.group⟩

/-- The disk `e` is `d` with other memberships of those partitions that have a device path. -/
structure Remarked (d e : Disk) : Prop where
  rest : e = { d with partitions := e.partitions }
  partitions : List.Forall₂ (fun p q => q = { p with lvm := q.lvm } ∧ (p.path = none → q = p))
    d.partitions e.partitions

/-- A partition with the membership of its device path, if it has one. -/
def mark (vs : List PhysicalVolume) (p : Partition) : Partition :=
  match p.path with
  | some path => { p with lvm := membership? vs path }
  | none => p

section Annotate

variable {d e : Disk} {vs ws : List PhysicalVolume} {rs : List Row} {p : Partition}

theorem partitions_annotate (d : Disk) (vs : List PhysicalVolume) :
    (annotate d vs).partitions = d.partitions.map (mark vs) := rfl

theorem mark_of_none (h : p.path = none) (vs : List PhysicalVolume) : mark vs p = p := by
  unfold mark
  rw [h]

theorem mark_of_some {path : String} (h : p.path = some path) (vs : List PhysicalVolume) :
    mark vs p = { p with lvm := membership? vs path } := by
  unfold mark
  rw [h]

theorem mark_eq (vs : List PhysicalVolume) (p : Partition) :
    mark vs p = { p with lvm := (mark vs p).lvm } := by
  unfold mark
  split <;> rfl

theorem marked_mark (h : List.Forall₂ Row.Tells rs vs) (p : Partition) :
    Marked rs p (mark vs p) := by
  cases hpath : p.path with
  | none =>
    rw [mark_of_none hpath]
    exact ⟨rfl, fun _ => rfl, fun path hp => absurd (hpath.symm.trans hp) nofun,
      fun _ _ _ _ hp => absurd (hpath.symm.trans hp) nofun⟩
  | some path =>
    rw [mark_of_some hpath]
    refine ⟨rfl, fun hp => absurd (hpath.symm.trans hp) nofun, fun path' hp => ?_,
      fun before r after hrs hp hbefore => ?_⟩
    · obtain rfl := Option.some.inj (hpath.symm.trans hp)
      exact isSome_membership?_iff_row h
    · obtain rfl := Option.some.inj (hpath.symm.trans hp)
      exact membership?_of_first (hrs ▸ h) hbefore

theorem forall₂_marked_annotate (h : List.Forall₂ Row.Tells rs vs) (d : Disk) :
    List.Forall₂ (Marked rs) d.partitions (annotate d vs).partitions := by
  rw [partitions_annotate]
  exact List.forall₂_map_right_iff.mpr (List.forall₂_same.mpr fun p _ => marked_mark h p)

theorem remarked_annotate (d : Disk) (vs : List PhysicalVolume) : Remarked d (annotate d vs) := by
  refine ⟨rfl, ?_⟩
  rw [partitions_annotate]
  exact List.forall₂_map_right_iff.mpr (List.forall₂_same.mpr fun p _ =>
    ⟨mark_eq vs p, fun hpath => mark_of_none hpath vs⟩)

/-- **Memberships from before are replaced.** -/
theorem Remarked.annotate_eq (h : Remarked d e) (vs : List PhysicalVolume) :
    annotate e vs = annotate d vs := by
  have hpartitions : d.partitions.map (mark vs) = e.partitions.map (mark vs) := by
    refine map_eq_map_of_forall₂ (h.partitions.imp fun p q ⟨hq, hkept⟩ => ?_)
    cases hpath : p.path with
    | none => rw [hkept hpath]
    | some path =>
      have hpath' : q.path = some path := by rw [hq, hpath]
      rw [mark_of_some hpath, mark_of_some hpath', hq]
  calc annotate e vs = { e with partitions := e.partitions.map (mark vs) } := rfl
    _ = { d with partitions := d.partitions.map (mark vs) } := by rw [h.rest, hpartitions]
    _ = annotate d vs := rfl

/-- The order of the rows has no part in the result, if no device is in them twice. -/
theorem annotate_of_perm (hperm : ws.Perm vs) (hnodup : (vs.map (·.device)).Nodup) (d : Disk) :
    annotate d ws = annotate d vs := by
  unfold annotate
  rw [funext (membership?_of_perm hperm hnodup)]

end Annotate

/-! ## Reports -/

/-- What the report `output`, which is read as the volumes `vs`, makes of any disk `d`. -/
structure Annotation (output : String) (vs : List PhysicalVolume) (d : Disk) : Prop where
  rest : annotate d vs = { d with partitions := (annotate d vs).partitions }
  marked : List.Forall₂ (Marked (rows output)) d.partitions (annotate d vs).partitions
  /-- What another report said before is replaced. -/
  replaced : ∀ ws, annotate (annotate d ws) vs = annotate d vs
  /-- So is any other membership, unless there is no device path. -/
  forgotten : ∀ e, Remarked d e → annotate e vs = annotate d vs
  /-- The rows of a report may be in any order if their devices differ. -/
  unordered : ∀ output', (rows output').Perm (rows output) →
    ((rows output).map Row.device).Nodup →
      ∃ vs', PhysicalVolume.parseReport output' = .ok vs' ∧ annotate d vs' = annotate d vs

/-- The memberships of the disk `d` whose device paths have been filled in, by the rows of a
report. -/
structure Memberships (rs : List Row) (d : Disk) : Prop where
  /-- A partition is a physical volume exactly if a row has the device path of its ordinal. -/
  member : ∀ p ∈ d.partitions,
    (p.lvm.isSome ↔ ∃ r ∈ rs, DevicePath.ofOrdinal d.path p.number = .ok r.device)
  /-- The first such row decides on the volume group. -/
  first : ∀ p ∈ d.partitions, ∀ before r after, rs = before ++ r :: after →
    DevicePath.ofOrdinal d.path p.number = .ok r.device →
      (∀ r' ∈ before, r'.device ≠ r.device) → p.lvm = some ⟨r.group⟩
  /-- A row has the device path of one partition at most. -/
  once : ∀ r ∈ rs, d.partitions.countP (·.path = some r.device) ≤ 1

theorem annotation_of_parseReport {output : String} {vs : List PhysicalVolume}
    (h : PhysicalVolume.parseReport output = .ok vs) (d : Disk) : Annotation output vs d := by
  have htells := forall₂_of_parseReport h
  refine ⟨rfl, forall₂_marked_annotate htells d, fun ws => (remarked_annotate d ws).annotate_eq vs,
    fun e he => he.annotate_eq vs, fun output' hperm hnodup => ?_⟩
  obtain ⟨vs', hvs', hperm'⟩ := mapM_of_perm hperm h
  have hdevices : (rows output).map Row.device = vs.map (·.device) :=
    map_eq_map_of_forall₂ (htells.imp fun r v hrv => hrv.device.symm)
  exact ⟨vs', hvs', annotate_of_perm hperm' (hdevices ▸ hnodup) d⟩

theorem memberships_of_marked {rs : List Row} {raw d e : Disk} (hfill : raw.fillPaths = .ok d)
    (hrest : e = { d with partitions := e.partitions })
    (hmarked : List.Forall₂ (Marked rs) d.partitions e.partitions) : Memberships rs e := by
  obtain ⟨⟨hzero, hnodup⟩, sep, hsep, rfl⟩ := Disk.fillPaths_eq_ok_iff.mp hfill
  have hpath : e.path = raw.path := by rw [hrest, Disk.path_located]
  have hfilled : ∀ q ∈ e.partitions, ∃ p, Marked rs p q ∧
      DevicePath.ofOrdinal e.path q.number = .ok (raw.path ++ sep ++ q.number.toNat.repr) ∧
        p.path = some (raw.path ++ sep ++ q.number.toNat.repr) := by
    intro q hq
    obtain ⟨p, hp, hpq⟩ := exists_partner hmarked.flip hq
    have hnumber : q.number = p.number := by rw [hpq.rest]
    rw [← Disk.ordinals_located raw sep] at hzero
    rw [hpath, hnumber]
    exact ⟨p, hpq, (DevicePath.ofOrdinal_eq_ok_iff hsep).mpr ⟨Disk.toNat_number_pos hzero hp, rfl⟩,
      Disk.path_of_mem_located hp⟩
  refine ⟨fun q hq => ?_, fun q hq before r after hrs hpath' hfirst => ?_, fun r _ => ?_⟩
  · obtain ⟨p, hpq, hordinal, hp⟩ := hfilled q hq
    rw [hpq.member _ hp, hordinal]
    simp only [Except.ok.injEq, eq_comm]
  · obtain ⟨p, hpq, hordinal, hp⟩ := hfilled q hq
    rw [hordinal] at hpath'
    exact hpq.first before r after hrs (Except.ok.inj hpath' ▸ hp) hfirst
  · have hpaths : (raw.located sep).partitions.map (·.path) = e.partitions.map (·.path) :=
      map_eq_map_of_forall₂ (hmarked.imp fun p q hpq => by rw [hpq.rest])
    have hnodup' : (e.partitions.map (·.path)).Nodup :=
      hpaths ▸ Disk.nodup_paths_located hsep hzero hnodup
    calc e.partitions.countP (·.path = some r.device)
        = (e.partitions.map (·.path)).count (some r.device) := by
          rw [List.count, List.countP_map]
          exact List.countP_congr fun p _ => by simp
      _ ≤ 1 := List.nodup_iff_count_le_one.mp hnodup' _

/-- **What a report makes of a disk**: of any disk, and of one whose device paths have been filled
in. -/
theorem memberships_of_report {output : String} {vs : List PhysicalVolume} {raw d : Disk}
    (hreport : PhysicalVolume.parseReport output = .ok vs) (hfill : raw.fillPaths = .ok d) :
    (∀ e, Annotation output vs e) ∧ Memberships (rows output) (annotate d vs) :=
  ⟨annotation_of_parseReport hreport, memberships_of_marked hfill rfl
    (forall₂_marked_annotate (forall₂_of_parseReport hreport) d)⟩

/-- Of two partitions one is a physical volume, by the row behind a warning. What was known of the
other is replaced. -/
theorem memberships_of_report_sda :
    let output :=
      "  WARNING: no device\n  /dev/sda2,vg0,lvm2,a--,1000.00,0\n  /dev/sdb,,lvm2,---,8,8\n"
    let unused : PvAttributes := ⟨false, false, false, false, false⟩
    let volume : PhysicalVolume :=
      ⟨"/dev/sda2", some "vg0", "lvm2", { unused with allocatable := true }, 1000, 0⟩
    let free : PhysicalVolume := ⟨"/dev/sdb", none, "lvm2", unused, 8, 8⟩
    let first := Partition.ofNumber 2
    let second := { Partition.ofNumber 1 with lvm := some ⟨some "vg1"⟩ }
    let raw : Disk := ⟨"/dev/sda", "", "", "", "", none, none, none, [first, second], []⟩
    let d := { raw with partitions :=
      [{ first with path := some "/dev/sda2" }, { second with path := some "/dev/sda1" }] }
    PhysicalVolume.parseReport output = .ok [volume, free] ∧ raw.fillPaths = .ok d ∧
      (∀ e, Annotation output [volume, free] e) ∧
        Memberships (rows output) (annotate d [volume, free]) ∧
          (annotate d [volume, free]).partitions.map (·.lvm) = [some ⟨some "vg0"⟩, none] := by
  intro output unused volume free first second raw d
  have hreport : PhysicalVolume.parseReport output = .ok [volume, free] := by decide
  have hfill : raw.fillPaths = .ok d := by decide
  obtain ⟨hall, hfilled⟩ := memberships_of_report hreport hfill
  exact ⟨hreport, hfill, hall, hfilled, by decide⟩

end StorageTopology.Lvm
