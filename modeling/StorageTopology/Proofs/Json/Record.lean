import Mathlib.Data.List.Nodup
import StorageTopology.Json.Named
import StorageTopology.Proofs.Json.Scan

/-!
# Records are read as they are written

`ReadsBack write read` says of one type that `read` gives back what `write` writes. It holds of the
values that fields have (`ReadsBack.str` and the others), and is handed on to lists
(`ReadsBack.list`) and to fields that may be absent (`ReadsBack.nullable_option`). A record is read
back if its fields are, because its members are found by their names (`fields?_record`).

* `ReadsBack.roundTrips`: **what is read back as a value is read back as a text**, in both written
  forms; and a text that is written is a normal form.
-/

namespace StorageTopology.Json

/-! ## Records -/

section Record

variable {fields : List Field} {members : List (String × Value)}

@[simp] theorem field_name (name : String) : (field name).name = name := rfl

@[simp] theorem optionalField_name (name : String) : (optionalField name).name = name := rfl

/-- A member is the only one with its name. -/
theorem byName_of_mem (hnodup : (members.map Prod.fst).Nodup) {m : String × Value}
    (hm : m ∈ members) {f : Field} (hf : f.name = m.1) : byName members f = some (some m.2) := by
  have hfilter : members.filter (fun n => decide (n.1 = f.name)) = [m] := by
    induction members with
    | nil => cases hm
    | cons n rest ih =>
      rw [List.map_cons, List.nodup_cons] at hnodup
      rcases List.mem_cons.mp hm with rfl | hrest
      · have hothers : rest.filter (fun n => decide (n.1 = f.name)) = [] := by
          refine List.filter_eq_nil_iff.mpr fun n hn => ?_
          intro hname
          refine hnodup.1 (List.mem_map.mpr ⟨n, hn, ?_⟩)
          rw [of_decide_eq_true hname, hf]
        rw [List.filter_cons_of_pos (by simp [hf]), hothers]
      · have hne : n.1 ≠ f.name := by
          rw [hf]
          exact fun h => hnodup.1 (h ▸ List.mem_map_of_mem hrest)
        rw [List.filter_cons_of_neg (by simpa using hne), ih hnodup.2 hrest]
  simp only [byName, hfilter]

/-- The order of the members is free. -/
theorem byName_perm {members' : List (String × Value)} (h : members.Perm members') (f : Field) :
    byName members f = byName members' f := by
  have hfound := h.filter fun m => decide (m.1 = f.name)
  unfold byName
  generalize members.filter (fun m => decide (m.1 = f.name)) = found at hfound ⊢
  generalize members'.filter (fun m => decide (m.1 = f.name)) = found' at hfound ⊢
  match found, found', hfound with
  | [], _, h => rw [h.nil_eq]
  | [m], _, h => rw [List.singleton_perm.mp h]
  | _ :: _ :: _, [], h => cases h.eq_nil
  | _ :: _ :: _, [m], h => cases List.perm_singleton.mp h
  | _ :: _ :: _, _ :: _ :: _, _ => rfl

/-- Fields that are named like some of the members are found, in their order. -/
theorem mapM_byName (hnodup : (members.map Prod.fst).Nodup) :
    ∀ {fields : List Field} {found : List (String × Value)}, (∀ m ∈ found, m ∈ members) →
      found.map Prod.fst = fields.map Field.name →
      fields.mapM (byName members) = some (found.map fun m => some m.2)
  | [], [], _, _ => rfl
  | f :: fields, m :: found, hmem, hnames => by
    obtain ⟨hname, hnames⟩ := List.cons.inj hnames
    have hfirst := byName_of_mem hnodup (hmem m List.mem_cons_self) hname.symm
    have hrest := mapM_byName hnodup (fun n hn => hmem n (.tail m hn)) hnames
    simp [hfirst, hrest]

/-- The fields of a record are looked up by their names. -/
theorem fields?_record_eq_mapM (members : List (String × Value)) (fields : List Field) :
    (Value.record members).fields? fields = fields.mapM (byName members) := by
  have hnamed : (members.map fun m => (some m.1, m.2)).mapM
      (fun m => m.1.map (·, m.2)) = some members := by
    rw [List.mapM_map]
    exact List.mapM_pure.trans (congrArg some (List.map_id members))
  simp only [Value.record, Value.fields?, hnamed]
  rfl

/-- **A record that is written with all its fields has them all**, in their order. -/
@[simp] theorem fields?_record (hnames : members.map Prod.fst = fields.map Field.name)
    (hnodup : (members.map Prod.fst).Nodup) :
    (Value.record members).fields? fields = some (members.map fun m => some m.2) := by
  rw [fields?_record_eq_mapM]
  exact mapM_byName hnodup (fun _ h => h) hnames

@[simp] theorem Value.plain_str (s : String) : (Value.str s).Plain := .str s

@[simp] theorem Value.plain_nat (n : Nat) : (Value.nat n).Plain := Value.nat_eq_int n ▸ .int n

@[simp] theorem Value.plain_array_iff {items : List Value} :
    (Value.array items).Plain ↔ ∀ v ∈ items, v.Plain := by
  refine ⟨fun h => ?_, .array⟩
  cases h with
  | array plain => exact plain

@[simp] theorem Value.plain_record_iff :
    (Value.record members).Plain ↔ ∀ m ∈ members, m.2.Plain := by
  constructor
  · intro h m hm
    cases h with
    | object _ plain => exact plain (some m.1, m.2) (List.mem_map_of_mem hm)
  · intro h
    refine .object (fun m hm => ?_) fun m hm => ?_ <;> obtain ⟨n, hn, rfl⟩ := List.mem_map.mp hm
    · rfl
    · exact h n hn

theorem Value.Plain.record (h : ∀ m ∈ members, m.2.Plain) : (Value.record members).Plain :=
  Value.plain_record_iff.mpr h

end Record

@[simp] theorem required_some {α : Type} (read : Value → Option α) (v : Value) :
    required read (some v) = read v := rfl

@[simp] theorem withDefault_some {α : Type} (absent : α) (read : Value → Option α) (v : Value) :
    withDefault absent read (some v) = read v := rfl

/-! ## Fields -/

/-- `read` gives back what `write` writes, and takes null for nothing; `write` writes plain values
only. -/
structure ReadsBack {α : Type} (write : α → Value) (read : Value → Option α) : Prop where
  plain : ∀ a, (write a).Plain
  read_write : ∀ a, read (write a) = some a
  read_null : read .null = none

namespace ReadsBack

theorem bool : ReadsBack Value.bool Value.bool? := ⟨.bool, fun _ => rfl, rfl⟩

theorem str : ReadsBack Value.str Value.str? := ⟨.str, fun _ => rfl, rfl⟩

theorem word32 : ReadsBack (fun n : UInt32 => .nat n.toNat) Value.word32? :=
  ⟨fun n => Value.nat_eq_int n.toNat ▸ .int _, Value.word32?_nat, rfl⟩

theorem word64 : ReadsBack (fun n : UInt64 => .nat n.toNat) Value.word64? :=
  ⟨fun n => Value.nat_eq_int n.toNat ▸ .int _, Value.word64?_nat, rfl⟩

theorem int32 : ReadsBack (fun i : Int32 => .int i.toInt) Value.int32? :=
  ⟨fun i => .int i.toInt, Value.int32?_int, rfl⟩

theorem named {α : Type} [Named α] : ReadsBack (Value.ofNamed : α → Value) Value.named? :=
  ⟨fun a => .str (Named.name a), Named.ofName?_name, rfl⟩

variable {α : Type} {write : α → Value} {read : Value → Option α}

theorem list (h : ReadsBack write read) :
    ReadsBack (fun as : List α => .array (as.map write)) (Value.list? read) where
  plain as := by
    refine .array fun v hv => ?_
    obtain ⟨a, _, rfl⟩ := List.mem_map.mp hv
    exact h.plain a
  read_write as := by
    simp only [Value.list?, List.mapM_map, Function.comp_def, h.read_write]
    exact List.mapM_pure.trans (congrArg some (List.map_id as))
  read_null := rfl

theorem strs : ReadsBack Value.strs (Value.list? Value.str?) := str.list

theorem plain_option (h : ReadsBack write read) (o : Option α) : (Value.option write o).Plain := by
  cases o with
  | none => exact .null
  | some a => exact h.plain a

/-- A value is not null, so what may be absent is told from what is there. -/
theorem nullable_option (h : ReadsBack write read) (o : Option α) :
    nullable read (some (.option write o)) = some o := by
  cases o with
  | none => rfl
  | some a =>
    have hnull : write a ≠ .null := by
      intro hnull
      have hread := h.read_write a
      rw [hnull, h.read_null] at hread
      cases hread
    have hvalue : (write a).nullable? read = (read (write a)).map some := by
      unfold Value.nullable?
      split
      · exact absurd ‹_› hnull
      · rfl
    simp [nullable, Value.option, hvalue, h.read_write]

end ReadsBack

/-! ## Whole texts -/

/-- The two written forms. -/
inductive Form where
  | compact
  | pretty

/-- A value in a written form. -/
def Form.write : Form → Value → String
  | .compact => Value.compact
  | .pretty => Value.pretty

theorem Form.parse?_write (form : Form) {v : Value} (h : v.Plain) :
    Value.parse? (form.write v) = some v := by
  cases form with
  | compact => exact Value.parse?_compact h
  | pretty => exact Value.parse?_pretty h

variable {α : Type}

/-- What a text is read as. -/
def decode (read : Value → Option α) (text : String) : Option α := (Value.parse? text).bind read

/-- A text, read and written again. -/
def reencode (write : α → Value) (read : Value → Option α) (form : Form) (text : String) :
    Option String :=
  (decode read text).map fun a => form.write (write a)

/-- What is written in either form is read back. So whatever text is read, writing it again gives a
normal form, which means the same and stays as it is. -/
structure RoundTrips (write : α → Value) (read : Value → Option α) : Prop where
  decode_write : ∀ (form : Form) (a : α), decode read (form.write (write a)) = some a
  normal : ∀ (form : Form) (text written : String), reencode write read form text = some written →
    decode read written = decode read text ∧ reencode write read form written = some written

/-- **What is read back as a value is read back as a text.** -/
theorem ReadsBack.roundTrips {write : α → Value} {read : Value → Option α}
    (h : ReadsBack write read) : RoundTrips write read := by
  have hdecode (form : Form) (a : α) : decode read (form.write (write a)) = some a := by
    rw [decode, form.parse?_write (h.plain a), Option.bind_some, h.read_write]
  refine ⟨hdecode, fun form text written hwritten => ?_⟩
  obtain ⟨a, ha, rfl⟩ := Option.map_eq_some_iff.mp hwritten
  exact ⟨(hdecode form a).trans ha.symm, by rw [reencode, hdecode, Option.map_some]⟩

end StorageTopology.Json
