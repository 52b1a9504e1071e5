import StorageTopology.Proofs.Disk.Faults
import StorageTopology.Proofs.Discovery.KernelNames

/-!
# What the children of a disk have to do with it

`lsblk` lists everything that lies on a disk: its partitions, other devices, and under the
partitions what is built on them. Only the partitions among the children are read, and of them
neither the columns that belong to whole disks nor the devices on them.

* `Child.Alike`, `SameParts`: children that differ in what is not read. `toDisk_of_resembles`:
  they are read alike.
* `Relisted`: the same children in another order. `toDisk_of_relisted`: they are read as the same
  disk, or fail alike but for the name that a refusal quotes (`Agree`).
* `toDisk_refused_iff`: a disk is refused for a name exactly if some partition is not named after
  it.
* `parse_of_children`: all of this for whole outputs.
-/

namespace StorageTopology.Lsblk

/-! ## Children that differ in what is not read -/

/-- Two children that may differ in their paths, models, transports and kinds of partition table,
and in the devices on them. -/
def Child.Alike (c c' : Device) : Prop :=
  c' = { c with
    path := c'.path
    model := c'.model
    transport := c'.transport
    tableType := c'.tableType
    children := c'.children }

/-- Two lists of children that are alike but for devices that are not partitions, any of which may
be in one list only. -/
inductive SameParts : List Device → List Device → Prop
  | nil : SameParts [] []
  | added {c' : Device} {cs cs' : List Device} (hkind : c'.kind ≠ "part") (h : SameParts cs cs') :
      SameParts cs (c' :: cs')
  | removed {c : Device} {cs cs' : List Device} (hkind : c.kind ≠ "part") (h : SameParts cs cs') :
      SameParts (c :: cs) cs'
  | kept {c c' : Device} {cs cs' : List Device} (halike : Child.Alike c c')
      (h : SameParts cs cs') : SameParts (c :: cs) (c' :: cs')

/-- Two results that differ at most in the child that a refusal names. -/
inductive Agree : Except Failure Disk → Except Failure Disk → Prop
  | same (r : Except Failure Disk) : Agree r r
  | refused (child child' device : String) :
      Agree (.error (.parse (.foreignPartition child device)))
        (.error (.parse (.foreignPartition child' device)))

namespace Device

/-- The same device with other children, of which the same is read. -/
structure Resembles (v w : Device) : Prop where
  rest : w = { v with children := w.children }
  children : SameParts v.children w.children

/-- The same device with its children in another order. -/
structure Relisted (v w : Device) : Prop where
  rest : w = { v with children := w.children }
  children : w.children.Perm v.children

/-- The disk that a device is, before its partitions are put in order. -/
def unsettled (v : Device) (ps : List Partition) : Disk where
  path := v.devicePath
  size := v.sizeText
  model := Text.trim (v.model.getD "")
  transport := v.transport.getD ""
  label := v.tableType.getD ""
  maxPartitions := none
  geometry := none
  media := some v.media
  partitions := ps
  mountPoints := v.mountPoints

variable {v w c c' : Device} {cs cs' : List Device} {ps : List Partition}

theorem toDisk_of_ok (h : v.parts.mapM (toPartition v) = .ok ps) :
    v.toDisk = (v.unsettled ps).settle.mapError .topology := by
  unfold toDisk
  rw [show (v.children.filter isPartition).mapM (toPartition v) = .ok ps from h]
  rfl

theorem toDisk_of_error {cause : ParseError} (h : v.parts.mapM (toPartition v) = .error cause) :
    v.toDisk = .error (.parse cause) := by
  unfold toDisk
  rw [show (v.children.filter isPartition).mapM (toPartition v) = .error cause from h]
  rfl

theorem toPartition_of_alike (h : Child.Alike c c') : toPartition v c' = toPartition v c := by
  rw [h]
  rfl

theorem isPartition_of_alike (h : Child.Alike c c') : c'.isPartition = c.isPartition := by
  rw [h]
  rfl

theorem isPartition_eq_false (h : c.kind ≠ "part") : c.isPartition = false :=
  decide_eq_false h

/-- Of two lists of children that are the same up to what is not read, the partitions are read
alike. -/
theorem mapM_of_sameParts (h : SameParts cs cs') :
    (cs'.filter isPartition).mapM (toPartition v) =
      (cs.filter isPartition).mapM (toPartition v) := by
  induction h with
  | nil => rfl
  | added hkind _ ih =>
    rw [List.filter_cons_of_neg (by simp [isPartition_eq_false hkind]), ih]
  | removed hkind _ ih =>
    rw [List.filter_cons_of_neg (by simp [isPartition_eq_false hkind]), ih]
  | @kept c c' _ _ halike _ ih =>
    have hsame := isPartition_of_alike halike
    cases hpart : c.isPartition with
    | false =>
      rw [List.filter_cons_of_neg (by simp [hsame, hpart]),
        List.filter_cons_of_neg (by simp [hpart]), ih]
    | true =>
      rw [List.filter_cons_of_pos (hsame.trans hpart), List.filter_cons_of_pos hpart,
        List.mapM_cons, List.mapM_cons, toPartition_of_alike halike, ih]

/-- **What is not read of the children has no part in the disk**, nor in a failure. -/
theorem toDisk_of_resembles (h : v.Resembles w) : w.toDisk = v.toDisk := by
  have hparts : w.parts.mapM (toPartition w) = v.parts.mapM (toPartition v) := by
    rw [h.rest]
    exact mapM_of_sameParts h.children
  cases hread : v.parts.mapM (toPartition v) with
  | error cause => rw [toDisk_of_error hread, toDisk_of_error (hparts.trans hread)]
  | ok ps =>
    rw [toDisk_of_ok hread, toDisk_of_ok (hparts.trans hread), h.rest]
    rfl

/-! ## Refusals -/

theorem toPartition_eq_error_iff {cause : ParseError} :
    toPartition v c = .error cause ↔
      DevicePath.ordinal? v.name c.name = none ∧ cause = .foreignPartition c.name v.name := by
  unfold toPartition
  cases DevicePath.ordinal? v.name c.name with
  | none => simp [eq_comm]
  | some n => simp

/-- **A disk is refused for a name** exactly if some partition among its children is not named
after it. -/
theorem toDisk_refused_iff :
    (∃ cause, v.toDisk = .error (.parse cause)) ↔
      ∃ child ∈ v.children, child.kind = "part" ∧
        DevicePath.ordinal? v.name child.name = none := by
  have hrefused : (∃ cause, v.parts.mapM (toPartition v) = .error cause) ↔
      ∃ child ∈ v.children, child.kind = "part" ∧
        DevicePath.ordinal? v.name child.name = none := by
    simp [exists_mapM_error_iff, toPartition_eq_error_iff, parts, isPartition, and_assoc]
  rw [← hrefused]
  cases hread : v.parts.mapM (toPartition v) with
  | error cause => simp [toDisk_of_error hread]
  | ok ps =>
    rw [toDisk_of_ok hread]
    cases (v.unsettled ps).settle <;> simp [Except.mapError]

theorem exists_foreign_of_mapM {cause : ParseError}
    (h : cs.mapM (toPartition v) = .error cause) :
    ∃ child, cause = .foreignPartition child v.name := by
  obtain ⟨-, c, -, -, -, hc⟩ := mapM_eq_error_iff.mp h
  exact ⟨c.name, (toPartition_eq_error_iff.mp hc).2⟩

/-! ## Children in another order -/

/-- **The order of the children has no part in the disk.** If several of them are refused, it
decides which one the refusal names. -/
theorem toDisk_of_relisted (h : v.Relisted w) : Agree v.toDisk w.toDisk := by
  have hperm : w.parts.Perm v.parts := h.children.filter _
  have hreader : toPartition w = toPartition v := by
    rw [h.rest]
    rfl
  cases hread : v.parts.mapM (toPartition v) with
  | error cause =>
    obtain ⟨cause', hread'⟩ : ∃ cause', w.parts.mapM (toPartition w) = .error cause' := by
      obtain ⟨child, hchild, hrefused⟩ := exists_mapM_error_iff.mp ⟨cause, hread⟩
      rw [hreader]
      exact exists_mapM_error_iff.mpr ⟨child, hperm.mem_iff.mpr hchild, hrefused⟩
    rw [toDisk_of_error hread, toDisk_of_error hread']
    obtain ⟨child, rfl⟩ := exists_foreign_of_mapM hread
    obtain ⟨child', rfl⟩ := exists_foreign_of_mapM (hreader ▸ hread')
    exact .refused child child' v.name
  | ok ps =>
    obtain ⟨ps', hread', hps⟩ := mapM_of_perm hperm hread
    have hunsettled : w.unsettled ps' = { v.unsettled ps with partitions := ps' } := by
      rw [h.rest]
      rfl
    have hsettle : (w.unsettled ps').settle = (v.unsettled ps).settle :=
      Disk.settle_relisted hunsettled hps
    rw [toDisk_of_ok hread, toDisk_of_ok (hreader ▸ hread'), hsettle]
    exact .same _

end Device

/-! ## Whole outputs -/

/-- What is found of single devices is found of outputs: if there is not exactly one device, only
their number shows. -/
theorem diskOfDevices_of_forall₂ {R : Device → Device → Prop}
    {S : Except Failure Disk → Except Failure Disk → Prop} (hrefl : ∀ r, S r r)
    (hdisk : ∀ v w, R v w → S v.toDisk w.toDisk) {vs ws : List Device}
    (h : List.Forall₂ R vs ws) : S (diskOfDevices vs) (diskOfDevices ws) := by
  have hcount : vs.length = ws.length := h.length_eq
  match h with
  | .nil => exact hrefl _
  | .cons hfirst .nil => exact hdisk _ _ hfirst
  | .cons _ (.cons _ _) =>
    simp only [diskOfDevices, hcount]
    exact hrefl _

theorem parse_of_devices? {output : String} {vs : List Device} (h : devices? output = some vs) :
    parse output = diskOfDevices vs := by
  unfold parse
  rw [h]

/-- **What the result of an output depends on**: not on children that are not partitions, not on the
paths, models, transports and kinds of partition table of children, and not on the devices that
lie on children. The order of the children decides neither whether a disk is read, nor the disk, nor
the kind of a failure, which is a refusal exactly if a partition is not named after the disk. -/
theorem parse_of_children {output output' : String} {vs ws : List Device}
    (h : devices? output = some vs) (h' : devices? output' = some ws) :
    (List.Forall₂ Device.Resembles vs ws → parse output' = parse output) ∧
      (List.Forall₂ Device.Relisted vs ws → Agree (parse output) (parse output')) ∧
        ∀ v, vs = [v] → ((∃ cause, parse output = .error (.parse cause)) ↔
          ∃ child ∈ v.children, child.kind = "part" ∧
            DevicePath.ordinal? v.name child.name = none) := by
  rw [parse_of_devices? h, parse_of_devices? h']
  refine ⟨fun hsame => ?_, fun horder => ?_, ?_⟩
  · exact (diskOfDevices_of_forall₂ (S := (· = ·)) (fun _ => rfl)
      (fun v w hvw => (Device.toDisk_of_resembles hvw).symm) hsame).symm
  · exact diskOfDevices_of_forall₂ Agree.same (fun v w => Device.toDisk_of_relisted) horder
  · rintro v rfl
    exact Device.toDisk_refused_iff

/-- The description of a child. -/
def child (name kind : String) (more : List (String × Json.Value)) : Json.Value :=
  .record ([("name", .str name), ("type", .str kind)] ++ more)

/-- The description of a disk with the given children. -/
def listing (children : List Json.Value) : Json.Value :=
  .record [("blockdevices", .array [.record [("name", .str "sda"), ("children", .array children)]])]

/-- A volume on a partition and a loop device do not show; nor does the order of two partitions, but
of two that are named after other disks the first one is refused. -/
theorem parse_of_children_sda :
    let volume := child "vg0-root" "lvm" []
    let mixed := listing [child "sda2" "part" [("children", .array [volume])],
      child "loop0" "loop" [], child "sda1" "part" []]
    let bare := listing [child "sda2" "part" [("model", .str "x")], child "sda1" "part" []]
    let swapped := listing [child "sda1" "part" [], child "sda2" "part" [("model", .str "x")]]
    let foreign := listing [child "sdb1" "part" [], child "sdc1" "part" []]
    parse bare.compact = parse mixed.compact ∧ Agree (parse bare.compact) (parse swapped.compact) ∧
      ∃ cause, parse foreign.compact = .error (.parse cause) := by
  intro volume mixed bare swapped foreign
  let device (name kind : String) : Device :=
    ⟨name, none, none, false, false, kind, none, [], none, none, none, none, []⟩
  let disk (children : List Device) : Device := { device "sda" "" with children := children }
  let second : Device := { device "sda2" "part" with model := some "x" }
  have hmixed : devices? mixed.compact = some [disk
      [{ device "sda2" "part" with children := [device "vg0-root" "lvm"] }, device "loop0" "loop",
        device "sda1" "part"]] := by
    rw [devices?, Json.Value.parse?_compact (by simp [mixed, listing, child, volume])]
    rfl
  have hbare : devices? bare.compact = some [disk [second, device "sda1" "part"]] := by
    rw [devices?, Json.Value.parse?_compact (by simp [bare, listing, child])]
    rfl
  have hswapped : devices? swapped.compact = some [disk [device "sda1" "part", second]] := by
    rw [devices?, Json.Value.parse?_compact (by simp [swapped, listing, child])]
    rfl
  have hforeign : devices? foreign.compact =
      some [disk [device "sdb1" "part", device "sdc1" "part"]] := by
    rw [devices?, Json.Value.parse?_compact (by simp [foreign, listing, child])]
    rfl
  refine ⟨(parse_of_children hmixed hbare).1 (.cons ⟨rfl, ?_⟩ .nil),
    (parse_of_children hbare hswapped).2.1 (.cons ⟨rfl, .swap _ _ _⟩ .nil),
    ((parse_of_children hforeign hforeign).2.2 _ rfl).mpr ⟨device "sdb1" "part", ?_, rfl, ?_⟩⟩
  · exact .kept rfl (.removed (by decide) (.kept rfl .nil))
  · exact List.mem_cons_self
  · decide

end StorageTopology.Lsblk
