import StorageTopology.Proofs.Discovery.Sources
import StorageTopology.Proofs.Json.Record
import StorageTopology.Proofs.Traversal

/-!
# One tree in two layouts

Current versions of `lsblk` print the path of a device, its flags as booleans and a list of mount
points. Older ones print no path, the flags as digits and one mount point.

* `Node`, `Prints`: a tree of devices, each with at most one mount point, and the descriptions of
  it in a layout.
* `read?_device`: what is read from one device of a description, given what is read from those on
  it.
* `agree`: a tree that is not too deep is read alike from both layouts, up to what does not matter
  for a disk (`Device.normal`).
* `refused`: a tree that is too deep is refused. The list of mount points of an innermost device is
  one container deeper than the device, so the current layout reaches the bound first.
* `same_disk_of_layouts`: both layouts lead to the same disk, or to the same failure, for trees of
  every height but one.
-/

namespace StorageTopology

open Json

namespace Lsblk

/-! ## The layouts -/

/-- What the layouts print of a device, each in its own way. -/
structure Face where
  name : String
  removable : Bool
  readOnly : Bool
  mountPoint : Option String

/-- The columns in which the layouts differ, and those that make up the tree. -/
def ownColumns : List String :=
  ["name", "path", "rm", "ro", "mountpoints", "mountpoint", "children"]

/-- The layouts of a description. -/
inductive Layout where
  | current
  | legacy

namespace Layout

/-- A flag as a digit. -/
def digit (b : Bool) : Value := .str (if b then "1" else "0")

/-- The columns of a device that the layout prints in its own way. -/
def own (face : Face) : Layout → List (String × Value)
  | .current =>
    [("name", .str face.name), ("path", .str ("/dev/" ++ face.name)),
      ("rm", .bool face.removable), ("ro", .bool face.readOnly),
      ("mountpoints", .array [.option .str face.mountPoint])]
  | .legacy =>
    [("name", .str face.name), ("rm", digit face.removable), ("ro", digit face.readOnly),
      ("mountpoint", .option .str face.mountPoint)]

theorem mem_own (layout : Layout) (face : Face) : ∀ m ∈ layout.own face, m.1 ∈ ownColumns := by
  cases layout <;> simp [own, ownColumns]

/-- The path that is read. -/
def path (face : Face) : Layout → Option String
  | .current => some ("/dev/" ++ face.name)
  | .legacy => none

/-- The single mount point that is read. -/
def mountPoint (face : Face) : Layout → Option String
  | .current => none
  | .legacy => face.mountPoint

/-- The mount points that are read, given how a list of them is read. -/
def mounts? (read : Value → Option (List (Option String))) (face : Face) :
    Layout → Option (List (Option String))
  | .current => read (.array [.option .str face.mountPoint])
  | .legacy => some []

/-- The list of mount points that is read. -/
def mountPoints (face : Face) : Layout → List (Option String)
  | .current => [face.mountPoint]
  | .legacy => []

/-- The number of containers that a description of a tree has open at once at least. An innermost
device is one of them; in the current layout, so is its list of mount points. -/
def containers (height : Nat) : Layout → Nat
  | .current => 2 * height
  | .legacy => 2 * height - 1

end Layout

/-- The column of the children, if it is there. -/
def nested : Option (List Value) → List (String × Value)
  | none => []
  | some vs => [("children", .array vs)]

/-- The children that are read, given how a list of them is read. -/
def nested? (read : Value → Option (List Device)) : Option (List Value) → Option (List Device)
  | none => some []
  | some vs => read (.array vs)

/-- What the columns that are printed alike say of a device. -/
structure Common where
  size : Option Scalar
  kind : String
  fstype : Option String
  model : Option String
  transport : Option String
  tableType : Option String

/-- Read the values in the columns that are printed alike. -/
def Common.ofValues? (size kind fstype model transport tableType : Option Value) :
    Option Common := do
  let size ← nullable Scalar.ofJson? size
  let kind ← withDefault "" Value.str? kind
  let fstype ← nullable Value.str? fstype
  let model ← nullable Value.str? model
  let transport ← nullable Value.str? transport
  let tableType ← nullable Value.str? tableType
  some ⟨size, kind, fstype, model, transport, tableType⟩

/-- Read the columns that are printed alike, none of which may come twice. -/
def Common.read? (columns : List (String × Value)) : Option Common := do
  let size ← byName columns (optionalField "size")
  let kind ← byName columns (optionalField "type")
  let fstype ← byName columns (optionalField "fstype")
  let model ← byName columns (optionalField "model")
  let transport ← byName columns (optionalField "tran")
  let tableType ← byName columns (optionalField "pttype")
  ofValues? size kind fstype model transport tableType

/-- The device that is read in a layout. -/
def Layout.device (face : Face) (c : Common) (mounts : List (Option String))
    (children : List Device) (layout : Layout) : Device :=
  ⟨face.name, layout.path face, c.size, face.removable, face.readOnly, c.kind, c.fstype, mounts,
    layout.mountPoint face, c.model, c.transport, c.tableType, children⟩

/-- A tree of devices; the further columns of each are printed alike by both layouts. -/
structure Node where
  face : Face
  columns : List (String × Value)
  shared : ∀ c ∈ columns, c.1 ∉ ownColumns
  children : List Node

/-- The descriptions of a tree in a layout. The order of the columns is free, and the column of the
children may be left out if there are none. -/
inductive Prints (layout : Layout) : Node → Value → Prop
  | mk {n : Node} {members : List (String × Value)} {children : Option (List Value)}
      (columns : members.Perm (layout.own n.face ++ n.columns ++ nested children))
      (below : List.Forall₂ (Prints layout) n.children (children.getD [])) :
      Prints layout n (.record members)

namespace Node

mutual

/-- The number of devices on the longest branch. -/
def height : Node → Nat
  | ⟨_, _, _, children⟩ => heightAll children + 1

/-- The number of devices on the longest branch of several trees. -/
def heightAll : List Node → Nat
  | [] => 0
  | n :: ns => max n.height (heightAll ns)

end

theorem height_eq (n : Node) : n.height = heightAll n.children + 1 := by
  cases n
  rw [height]

theorem height_le_heightAll {n : Node} {ns : List Node} (h : n ∈ ns) :
    n.height ≤ heightAll ns := by
  induction ns with
  | nil => cases h
  | cons m ns ih =>
    rw [heightAll]
    rcases List.mem_cons.mp h with rfl | h
    · exact Nat.le_max_left ..
    · exact (ih h).trans (Nat.le_max_right ..)

/-- Some tree has the longest branch, if there are trees at all. -/
theorem exists_height_eq (ns : List Node) :
    heightAll ns = 0 ∨ ∃ n ∈ ns, n.height = heightAll ns := by
  induction ns with
  | nil => exact .inl rfl
  | cons m ns ih =>
    rw [heightAll]
    refine .inr ?_
    rcases Nat.le_total (heightAll ns) m.height with hle | hle
    · exact ⟨m, List.mem_cons_self, (Nat.max_eq_left hle).symm⟩
    · rw [Nat.max_eq_right hle]
      rcases ih with hzero | ⟨n, hn, heq⟩
      · exact ⟨m, List.mem_cons_self, by omega⟩
      · exact ⟨n, .tail m hn, heq⟩

end Node

/-! ## Reading one device -/

section Lookup

variable {own columns : List (String × Value)} {children : Option (List Value)} {f : Field}

/-- A column that is printed alike is not among the others. -/
theorem byName_shared (hown : ∀ m ∈ own, m.1 ∈ ownColumns) (hf : f.name ∉ ownColumns) :
    byName (own ++ columns ++ nested children) f = byName columns f := by
  have hfirst : own.filter (fun m => decide (m.1 = f.name)) = [] := by
    refine List.filter_eq_nil_iff.mpr fun m hm heq => hf ?_
    exact of_decide_eq_true heq ▸ hown m hm
  have hlast : (nested children).filter (fun m => decide (m.1 = f.name)) = [] := by
    refine List.filter_eq_nil_iff.mpr fun m hm heq => hf ?_
    cases children with
    | none => cases hm
    | some vs =>
      obtain rfl := List.mem_singleton.mp hm
      exact of_decide_eq_true heq ▸ (show "children" ∈ ownColumns by decide)
  simp only [byName, List.filter_append, hfirst, hlast, List.nil_append, List.append_nil]

/-- The other columns are not among those that are printed alike. -/
theorem byName_own (hshared : ∀ c ∈ columns, c.1 ∉ ownColumns) (hf : f.name ∈ ownColumns) :
    byName (own ++ columns ++ nested children) f = byName (own ++ nested children) f := by
  have hmiddle : columns.filter (fun m => decide (m.1 = f.name)) = [] := by
    refine List.filter_eq_nil_iff.mpr fun m hm heq => hshared m hm ?_
    exact of_decide_eq_true heq ▸ hf
  simp only [byName, List.filter_append, hmiddle, List.append_nil]

end Lookup

theorem flag?_digit (b : Bool) : flag? (Layout.digit b) = some b := by
  cases b <;> rfl

/-- The column of a field comes at most once, and what is found there is read as `r`. -/
def ReadAs {α : Type} (members : List (String × Value)) (f : Field)
    (read : Option Value → Option α) (r : Option α) : Prop :=
  ∃ found, byName members f = some found ∧ read found = r

section Columns

variable {layout : Layout} {face : Face} {children : Option (List Value)}

/-- A flag is read alike from both layouts. -/
theorem readAs_removable : ReadAs (layout.own face ++ nested children) (optionalField "rm")
    (withDefault false flag?) (some face.removable) := by
  cases layout with
  | current => cases children <;> exact ⟨_, rfl, rfl⟩
  | legacy => cases children <;> exact ⟨_, rfl, flag?_digit _⟩

theorem readAs_readOnly : ReadAs (layout.own face ++ nested children) (optionalField "ro")
    (withDefault false flag?) (some face.readOnly) := by
  cases layout with
  | current => cases children <;> exact ⟨_, rfl, rfl⟩
  | legacy => cases children <;> exact ⟨_, rfl, flag?_digit _⟩

theorem readAs_name : ReadAs (layout.own face ++ nested children) (field "name")
    (required Value.str?) (some face.name) := by
  cases layout <;> cases children <;> exact ⟨_, rfl, rfl⟩

theorem readAs_path : ReadAs (layout.own face ++ nested children) (optionalField "path")
    (nullable Value.str?) (some (layout.path face)) := by
  cases layout <;> cases children <;> exact ⟨_, rfl, rfl⟩

theorem readAs_mountPoint : ReadAs (layout.own face ++ nested children)
    (optionalField "mountpoint") (nullable Value.str?) (some (layout.mountPoint face)) := by
  obtain ⟨name, removable, readOnly, mountPoint⟩ := face
  cases layout <;> cases children <;> cases mountPoint <;> exact ⟨_, rfl, rfl⟩

theorem readAs_mounts (readMounts : Value → Option (List (Option String))) :
    ReadAs (layout.own face ++ nested children) (optionalField "mountpoints")
      (withDefault [] readMounts) (layout.mounts? readMounts face) := by
  cases layout <;> cases children <;> exact ⟨_, rfl, rfl⟩

theorem readAs_children (readChildren : Value → Option (List Device)) :
    ReadAs (layout.own face ++ nested children) (optionalField "children")
      (withDefault [] readChildren) (nested? readChildren children) := by
  cases layout <;> cases children <;> exact ⟨_, rfl, rfl⟩

end Columns

/-- **One device of a description is read from its own columns, the shared ones and the children**:
it is refused if any of the three is. -/
theorem read?_device {layout : Layout} {n : Node} {members : List (String × Value)}
    {children : Option (List Value)}
    (columns : members.Perm (layout.own n.face ++ n.columns ++ nested children))
    (readMounts : Value → Option (List (Option String)))
    (readChildren : Value → Option (List Device)) :
    Device.read? readMounts readChildren (.record members) =
      (Common.read? n.columns).bind fun c => (layout.mounts? readMounts n.face).bind fun mounts =>
        (nested? readChildren children).map fun ds => layout.device n.face c mounts ds := by
  have hshared (name : String) (h : name ∉ ownColumns) :
      byName members (optionalField name) = byName n.columns (optionalField name) :=
    (byName_perm columns _).trans (byName_shared (layout.mem_own n.face) h)
  have hown {α : Type} {f : Field} {read : Option Value → Option α} {r : Option α}
      (hread : ReadAs (layout.own n.face ++ nested children) f read r)
      (h : f.name ∈ ownColumns) : ReadAs members f read r := by
    rwa [ReadAs, byName_perm columns f, byName_own n.shared h]
  obtain ⟨name, hname, hname'⟩ := hown readAs_name (by decide)
  obtain ⟨path, hpath, hpath'⟩ := hown readAs_path (by decide)
  obtain ⟨removable, hremovable, hremovable'⟩ := hown readAs_removable (by decide)
  obtain ⟨readOnly, hreadOnly, hreadOnly'⟩ := hown readAs_readOnly (by decide)
  obtain ⟨mountPoint, hmountPoint, hmountPoint'⟩ := hown readAs_mountPoint (by decide)
  obtain ⟨mounts, hmounts, hmounts'⟩ := hown (readAs_mounts readMounts) (by decide)
  obtain ⟨below, hbelow, hbelow'⟩ := hown (readAs_children readChildren) (by decide)
  unfold Device.read? Common.read?
  rw [fields?_record_eq_mapM]
  simp only [List.mapM_cons, List.mapM_nil]
  rw [hname, hpath, hshared "size" (by decide), hremovable, hreadOnly, hshared "type" (by decide),
    hshared "fstype" (by decide), hmounts, hmountPoint, hshared "model" (by decide),
    hshared "tran" (by decide), hshared "pttype" (by decide), hbelow]
  -- Both sides are refused at the first shared column that comes twice.
  rcases byName n.columns (optionalField "size") with _ | size
  · rfl
  rcases byName n.columns (optionalField "type") with _ | kind
  · rfl
  rcases byName n.columns (optionalField "fstype") with _ | fstype
  · rfl
  rcases byName n.columns (optionalField "model") with _ | model
  · rfl
  rcases byName n.columns (optionalField "tran") with _ | transport
  · rfl
  rcases byName n.columns (optionalField "pttype") with _ | tableType
  · rfl
  change (required Value.str? name).bind _ =
    (Common.ofValues? size kind fstype model transport tableType).bind _
  unfold Common.ofValues?
  rw [hname', hpath', hremovable', hreadOnly', hmounts', hmountPoint', hbelow']
  -- Then at the first value that cannot be read; the mount points are read between these.
  rcases nullable Scalar.ofJson? size with _ | size
  · rfl
  rcases withDefault "" Value.str? kind with _ | kind
  · rfl
  rcases nullable Value.str? fstype with _ | fstype
  · rfl
  rcases nullable Value.str? model with _ | model
  · cases layout.mounts? readMounts n.face <;> rfl
  rcases nullable Value.str? transport with _ | transport
  · cases layout.mounts? readMounts n.face <;> rfl
  rcases nullable Value.str? tableType with _ | tableType
  · cases layout.mounts? readMounts n.face <;> rfl
  rcases layout.mounts? readMounts n.face with _ | mounts
  · rfl
  cases nested? readChildren children <;> rfl

/-! ## What matters of a device -/

namespace Device

/-- What matters of a device, apart from its children: where it is, rather than whether its path was
given, and its mount points in one list. -/
def facts (d : Device) : Device :=
  { d with
    path := some d.devicePath
    mountpoints := d.mountPoints.map some
    mountpoint := none
    children := [] }

/-- What matters of a device and of its children; those below them are not looked at. -/
def normal (d : Device) : Device := { d.facts with children := d.children.map facts }

theorem mountPoints_facts (d : Device) : d.facts.mountPoints = d.mountPoints := by
  simp [facts, mountPoints, List.filterMap_map]

theorem facts_normal (d : Device) : d.normal.facts = d.facts := by
  have hmounts : d.normal.mountPoints = d.mountPoints := mountPoints_facts d
  simp only [facts, hmounts]
  rfl

theorem toPartition_normal (disk child : Device) :
    toPartition disk.normal child.facts = toPartition disk child := by
  unfold toPartition
  rw [mountPoints_facts]
  rfl

/-- Only what matters makes a disk. -/
theorem toDisk_normal (d : Device) : d.normal.toDisk = d.toDisk := by
  have hparts : (d.normal.children.filter isPartition).mapM (toPartition d.normal) =
      (d.children.filter isPartition).mapM (toPartition d) := by
    have hfilter : d.normal.children.filter isPartition =
        (d.children.filter isPartition).map facts :=
      List.filter_map
    rw [hfilter, List.mapM_map]
    exact congrArg (List.mapM · _) (funext (toPartition_normal d))
  have hmounts : d.normal.mountPoints = d.mountPoints := mountPoints_facts d
  unfold toDisk
  rw [hparts, hmounts]
  rfl

end Device

/-- The layouts say the same that matters. -/
theorem Layout.normal_device (face : Face) (c : Common) {ds ds' : List Device}
    (h : ds.map Device.facts = ds'.map Device.facts) :
    (current.device face c (current.mountPoints face) ds).normal =
      (legacy.device face c (legacy.mountPoints face) ds').normal := by
  obtain ⟨name, removable, readOnly, mountPoint⟩ := face
  cases mountPoint <;> simp [device, path, Layout.mountPoint, mountPoints, Device.normal,
    Device.facts, Device.devicePath, Device.mountPoints, h]

/-! ## Reading a tree -/

/-- Lists are read alike, up to what matters of their items, if items at the same place are. -/
theorem map_mapM_congr {α β γ δ : Type} {f : α → Option γ} {f' : β → Option γ} {g : γ → δ}
    {as : List α} {bs : List β}
    (h : List.Forall₂ (fun a b => (f a).map g = (f' b).map g) as bs) :
    (as.mapM f).map (List.map g) = (bs.mapM f').map (List.map g) := by
  induction h with
  | nil => rfl
  | @cons a b as bs hfirst _ hrest =>
    rw [List.mapM_cons, List.mapM_cons]
    revert hfirst hrest
    cases f a <;> cases f' b <;> cases as.mapM f <;> cases bs.mapM f' <;> simp +contextual

/-- What follows of the partners that an item has in two lists holds of these lists. -/
theorem forall₂_of_common {α β γ : Type} {R : α → β → Prop} {S : α → γ → Prop}
    {T : β → γ → Prop} {as : List α} {bs : List β} {cs : List γ} (hR : List.Forall₂ R as bs)
    (hS : List.Forall₂ S as cs) (h : ∀ a ∈ as, ∀ b c, R a b → S a c → T b c) :
    List.Forall₂ T bs cs := by
  induction hR generalizing cs with
  | nil =>
    cases hS
    exact .nil
  | cons hfirst _ ih =>
    cases hS with
    | cons hfirst' hrest =>
      exact .cons (h _ List.mem_cons_self _ _ hfirst hfirst')
        (ih hrest fun a ha => h a (.tail _ ha))

theorem mapM_eq_none_of_mem {α β : Type} {f : α → Option β} {a : α} :
    ∀ {as : List α}, a ∈ as → f a = none → as.mapM f = none
  | b :: as, ha, hf => by
    rw [List.mapM_cons]
    rcases List.mem_cons.mp ha with rfl | ha
    · rw [hf]
      rfl
    · rw [mapM_eq_none_of_mem ha hf]
      cases f b <;> rfl

section Prints

variable {layout : Layout} {n : Node} {members : List (String × Value)}
  {children : Option (List Value)}

/-- A device that may open two containers is read if those on it are, each with two less. -/
theorem ofJson?_device
    (columns : members.Perm (layout.own n.face ++ n.columns ++ nested children)) (inner : Nat) :
    Device.ofJson? (inner + 2) (.record members) =
      (Common.read? n.columns).bind fun c =>
        ((children.getD []).mapM (Device.ofJson? inner)).map fun ds =>
          layout.device n.face c (layout.mountPoints n.face) ds := by
  have hmounts : layout.mounts? (Value.list? (·.nullable? Value.str?)) n.face =
      some (layout.mountPoints n.face) := by
    cases layout with
    | current => rcases n.face with ⟨_, _, _, _ | point⟩ <;> rfl
    | legacy => rfl
  have hchildren : nested? (Value.list? (Device.ofJson? inner)) children =
      (children.getD []).mapM (Device.ofJson? inner) := by
    cases children <;> rfl
  rw [Device.ofJson?, read?_device columns, hmounts, hchildren]
  rfl

/-- **A tree that is not too deep is read alike from both layouts.** -/
theorem agree : ∀ {depth : Nat} {n : Node} {v v' : Value}, Prints .current n v →
    Prints .legacy n v' → 2 * n.height ≤ depth →
      (Device.ofJson? depth v).map Device.normal = (Device.ofJson? depth v').map Device.normal
  | 0, n, _, _, _, _, h | 1, n, _, _, _, _, h => by
    have := n.height_eq
    omega
  | inner + 2, n, _, _, @Prints.mk _ _ _ vs columns below, @Prints.mk _ _ _ vs' columns' below',
      h => by
    have hbelow : List.Forall₂ (fun v v' => (Device.ofJson? inner v).map Device.facts =
        (Device.ofJson? inner v').map Device.facts) (vs.getD []) (vs'.getD []) := by
      refine forall₂_of_common below below' fun m hm v v' hv hv' => ?_
      have hheight := Node.height_le_heightAll hm
      have hn := n.height_eq
      have hagree := congrArg (Option.map Device.facts) (@agree inner _ _ _ hv hv' (by omega))
      simpa only [Option.map_map, Function.comp_def, Device.facts_normal] using hagree
    have hall := map_mapM_congr hbelow
    rw [ofJson?_device columns, ofJson?_device columns']
    rcases Common.read? n.columns with _ | c
    · rfl
    generalize (vs.getD []).mapM (Device.ofJson? inner) = ds at hall ⊢
    generalize (vs'.getD []).mapM (Device.ofJson? inner) = ds' at hall ⊢
    match ds, ds', hall with
    | none, none, _ => rfl
    | some ds, some ds', hall =>
      exact congrArg some (Layout.normal_device n.face c (Option.some.inj hall))

/-- **A tree that is too deep is refused.** -/
theorem refused : ∀ {depth : Nat} {n : Node} {v : Value}, Prints layout n v →
    depth < layout.containers n.height → Device.ofJson? depth v = none
  | 0, _, _, _, _ => rfl
  | 1, n, _, @Prints.mk _ _ _ vs columns below, h => by
    rw [Device.ofJson?, read?_device columns]
    have hn := n.height_eq
    cases layout with
    | current => simp [Layout.mounts?]
    | legacy =>
      have hsome : nested? (fun _ => none) vs = none := by
        cases vs with
        | none =>
          have hnil : n.children = [] := List.forall₂_nil_right_iff.mp below
          rw [hnil, Node.heightAll] at hn
          simp [Layout.containers, hn] at h
        | some vs => rfl
      simp [hsome]
  | inner + 2, n, _, @Prints.mk _ _ _ vs columns below, h => by
    have hn := n.height_eq
    have hbelow : ∃ v ∈ vs.getD [], Device.ofJson? inner v = none := by
      rcases Node.exists_height_eq n.children with hzero | ⟨m, hm, heq⟩
      · cases layout <;> simp only [Layout.containers] at h <;> omega
      · obtain ⟨v, hv, hprints⟩ := exists_partner below hm
        refine ⟨v, hv, refused hprints ?_⟩
        cases layout <;> simp only [Layout.containers] at h ⊢ <;> omega
    obtain ⟨v, hv, hnone⟩ := hbelow
    rw [ofJson?_device columns, mapM_eq_none_of_mem hv hnone]
    cases Common.read? n.columns <;> rfl

end Prints

/-! ## Whole outputs -/

/-- The output around one description. -/
def output (v : Value) : Value := .record [("blockdevices", .array [v])]

/-- An output with one description leads to the disk that the device is. -/
theorem parse_of_output {v : Value} {o : String} (h : Value.parse? o = some (output v)) :
    parse o = ((Device.ofJson? (maxDepth - 2) v).map Device.toDisk).getD (.error .json) := by
  have hdevices : devices? o = (Device.ofJson? (maxDepth - 2) v).map ([·]) := by
    unfold devices?
    rw [h, Option.bind_eq_bind, Option.bind_some, output, fields?_record rfl (by simp)]
    change [v].mapM (Device.ofJson? (maxDepth - 2)) = _
    rw [List.mapM_cons]
    cases Device.ofJson? (maxDepth - 2) v <;> rfl
  unfold parse
  rw [hdevices]
  cases Device.ofJson? (maxDepth - 2) v <;> rfl

/-- **Both layouts lead to the same disk, or to the same failure**, for trees of every height but
63. Trees of that height are refused in the current layout, whose innermost list of mount points is
one container too many; the legacy layout has no such list. -/
theorem same_disk_of_layouts {n : Node} {v v' : Value} {o o' : String}
    (hv : Prints .current n v) (hv' : Prints .legacy n v')
    (h : Value.parse? o = some (output v)) (h' : Value.parse? o' = some (output v')) :
    (n.height ≠ 63 → parse o = parse o') ∧ (n.height = 63 → parse o = .error .json) := by
  have hsame (heq : (Device.ofJson? (maxDepth - 2) v).map Device.normal =
      (Device.ofJson? (maxDepth - 2) v').map Device.normal) : parse o = parse o' := by
    have hdisks := congrArg (Option.map Device.toDisk) heq
    simp only [Option.map_map, Function.comp_def, Device.toDisk_normal] at hdisks
    rw [parse_of_output h, parse_of_output h', hdisks]
  have hdeep (hheight : 63 ≤ n.height) : Device.ofJson? (maxDepth - 2) v = none :=
    refused hv (by simp only [maxDepth, Layout.containers]; omega)
  refine ⟨fun hne => hsame ?_, fun heq => ?_⟩
  · rcases Nat.lt_or_gt_of_ne hne with hlow | hhigh
    · exact agree hv hv' (by simp only [maxDepth]; omega)
    · have hdeep' : Device.ofJson? (maxDepth - 2) v' = none :=
        refused hv' (by simp only [maxDepth, Layout.containers]; omega)
      rw [hdeep hhigh.le, hdeep']
  · rw [parse_of_output h, hdeep heq.ge]
    rfl

/-! ## Printing a tree -/

namespace Node

mutual

/-- The description of a tree whose columns are in this order and in which no list of children is
empty. -/
def print (layout : Layout) : Node → Value
  | ⟨face, columns, _, children⟩ =>
    .record (layout.own face ++ columns ++
      nested (if children.isEmpty then none else some (printAll layout children)))

/-- The descriptions of several trees. -/
def printAll (layout : Layout) : List Node → List Value
  | [] => []
  | n :: ns => n.print layout :: printAll layout ns

end

mutual

theorem prints_print (layout : Layout) : ∀ n : Node, Prints layout n (n.print layout)
  | ⟨face, columns, shared, children⟩ => by
    rw [print]
    refine .mk (.refl _) ?_
    cases children with
    | nil => exact .nil
    | cons m ms => exact prints_printAll layout (m :: ms)

theorem prints_printAll (layout : Layout) :
    ∀ ns : List Node, List.Forall₂ (Prints layout) ns (printAll layout ns)
  | [] => .nil
  | n :: ns => .cons (prints_print layout n) (prints_printAll layout ns)

end

/-- The text around the description of a tree. -/
def text (layout : Layout) (n : Node) : String := (output (n.print layout)).compact

/-- A text can be read if the columns of each device can be written. -/
theorem parse?_text {layout : Layout} {n : Node} (h : (n.print layout).Plain) :
    Value.parse? (n.text layout) = some (output (n.print layout)) :=
  Value.parse?_compact (by simpa [output] using h)

/-- What is printed can be written if the shared columns can. -/
theorem plain_print {layout : Layout} {n : Node} (hcolumns : ∀ c ∈ n.columns, c.2.Plain)
    (hchildren : ∀ v ∈ printAll layout n.children, v.Plain) : (n.print layout).Plain := by
  obtain ⟨face, columns, shared, children⟩ := n
  have hpoint : (Value.option .str face.mountPoint).Plain := ReadsBack.str.plain_option _
  have hown : ∀ m ∈ layout.own face, m.2.Plain := by
    cases layout <;> simp [Layout.own, Layout.digit, Value.Plain.bool, hpoint]
  rw [print, Value.plain_record_iff]
  intro m hm
  rw [List.mem_append, List.mem_append] at hm
  rcases hm with (hm | hm) | hm
  · exact hown m hm
  · exact hcolumns m hm
  · split at hm
    · cases hm
    · obtain rfl := List.mem_singleton.mp hm
      exact .array hchildren

end Node

/-- A stick with one partition, which is mounted. -/
def mountedStick : Node where
  face := ⟨"sdb", true, false, none⟩
  columns := [("size", .str "7.5G"), ("type", .str "disk"), ("tran", .str "usb")]
  shared := by decide
  children := [{
    face := ⟨"sdb1", true, false, some "/mnt/stick"⟩
    columns := [("size", .str "7.5G"), ("type", .str "part"), ("fstype", .str "vfat")]
    shared := by decide
    children := [] }]

theorem plain_mountedStick (layout : Layout) : (mountedStick.print layout).Plain := by
  refine Node.plain_print (by simp [mountedStick]) fun v hv => ?_
  obtain rfl := List.mem_singleton.mp hv
  exact Node.plain_print (by simp) (by simp [Node.printAll])

/-- A partition named `name` on which there are `k` more, one on another. -/
def tower (name : String) : Nat → Node
  | 0 => ⟨⟨name, false, false, none⟩, [("type", .str "part")], by decide, []⟩
  | k + 1 => ⟨⟨name, false, false, none⟩, [("type", .str "part")], by decide, [tower "sda1" k]⟩

theorem height_tower (name : String) (k : Nat) : (tower name k).height = k + 1 := by
  induction k generalizing name with
  | zero => simp [tower, Node.height, Node.heightAll]
  | succ k ih => simp [tower, Node.height, Node.heightAll, ih]

theorem plain_tower (layout : Layout) (name : String) (k : Nat) :
    ((tower name k).print layout).Plain := by
  induction k generalizing name with
  | zero => exact Node.plain_print (by simp [tower]) (by simp [tower, Node.printAll])
  | succ k ih => exact Node.plain_print (by simp [tower]) (by simp [tower, Node.printAll, ih])

/-- A stick is read alike from both layouts; of 63 devices one on another, the current layout is
refused. -/
theorem same_disk_of_layouts_mountedStick :
    Lsblk.parse (mountedStick.text .current) = Lsblk.parse (mountedStick.text .legacy) ∧
      Lsblk.parse ((tower "sda" 62).text .current) = .error .json :=
  ⟨(same_disk_of_layouts (Node.prints_print _ _) (Node.prints_print _ _)
      (Node.parse?_text (plain_mountedStick _)) (Node.parse?_text (plain_mountedStick _))).1
        (by decide),
    (same_disk_of_layouts (Node.prints_print _ _) (Node.prints_print _ _)
      (Node.parse?_text (plain_tower ..)) (Node.parse?_text (plain_tower ..))).2
        (height_tower ..)⟩

/-- **The layouts do not lead to the same disk for every tree**: 63 devices, one on another, are a
disk in the legacy layout only. -/
theorem not_same_disk_tower :
    ¬ ∀ (n : Node) (v v' : Value) (o o' : String), Prints .current n v → Prints .legacy n v' →
      Value.parse? o = some (output v) → Value.parse? o' = some (output v') →
        ∀ d, parse o = .ok d ↔ parse o' = .ok d := by
  intro h
  have hrefused : parse ((tower "sda" 62).text .current) = .error .json := by
    have hdeep : maxDepth - 2 < Layout.current.containers (tower "sda" 62).height := by
      rw [height_tower]
      decide
    rw [parse_of_output (Node.parse?_text (plain_tower ..)), refused (Node.prints_print ..) hdeep,
      Option.map_none, Option.getD_none]
  have hread : (parse ((tower "sda" 62).text .legacy)).isOk = true := by
    rw [parse_of_output (Node.parse?_text (plain_tower ..))]
    decide +kernel
  have hboth := h _ _ _ _ _ (Node.prints_print .current (tower "sda" 62))
    (Node.prints_print .legacy _) (Node.parse?_text (plain_tower ..))
    (Node.parse?_text (plain_tower ..))
  rw [hrefused] at hboth
  generalize parse ((tower "sda" 62).text .legacy) = read at hread hboth
  cases read with
  | error e => cases hread
  | ok d => cases (hboth d).mpr rfl

end Lsblk

end StorageTopology
