import StorageTopology.Proofs.Lvm.Lines

/-!
# What a column of numbers is read as

Sizes and counts are printed in decimal, with or without a fraction. Only what stands before the
first point is read, and the reader of numbers takes a plus sign.

* `NumberColumn.ReadFrom`: what a value of a record has to do with the text in the row, and when
  that text is a plain figure.
* `ReadsNumbers`: the values of an accepted report are the numbers before the points in its rows,
  and a row with any other text in a column of numbers makes the whole report fail.
* `readsNumbers_reports`: **the three reports read numbers so**.
-/

namespace StorageTopology.Lvm

open Decimal

/-! ## Columns of numbers -/

/-- A column of numbers: its text in a row, its value in a record, and what all values lie below. -/
structure NumberColumn (α : Type) where
  text : Row → List Char
  value : α → Nat
  limit : Nat

/-- The columns of numbers of physical volumes: the size, and how much of it is free. -/
def PhysicalVolume.numberColumns : List (NumberColumn PhysicalVolume) :=
  [⟨Row.fifth, fun v => v.size.toNat, UInt64.size⟩, ⟨Row.sixth, fun v => v.free.toNat, UInt64.size⟩]

/-- The columns of numbers of groups: how many volumes there are, the size, and how much of it is
free. -/
def VolumeGroup.numberColumns : List (NumberColumn VolumeGroup) :=
  [⟨Row.second, fun v => v.pvCount.toNat, UInt32.size⟩,
    ⟨Row.third, fun v => v.lvCount.toNat, UInt32.size⟩,
    ⟨Row.fifth, fun v => v.size.toNat, UInt64.size⟩,
    ⟨Row.sixth, fun v => v.free.toNat, UInt64.size⟩]

/-- The column of numbers of logical volumes: the size. -/
def LogicalVolume.numberColumns : List (NumberColumn LogicalVolume) :=
  [⟨Row.fourth, fun v => v.size.toNat, UInt64.size⟩]

section NumberColumn

variable {α : Type} {k : NumberColumn α} {columns : List (NumberColumn α)} {r : Row} {v : α}

/-- The value of a record in a column is read from the text of a row. -/
structure NumberColumn.ReadFrom (k : NumberColumn α) (r : Row) (v : α) : Prop where
  /-- The text is the number in decimal, up to a plus sign and what stands behind the point. -/
  readAs : ReadAs (k.value v) (k.text r)
  /-- It is read as no other number. -/
  only {n : Nat} : ReadAs n (k.text r) → n = k.value v
  below : k.value v < k.limit
  /-- It is a plain figure exactly if it has no plus sign, and behind its first point nothing but
  digits. -/
  plain_iff : PlainFigure (k.value v) (k.text r) ↔
    (k.text r).head? ≠ some '+' ∧ ∀ rest ∈ behindPoint? (k.text r), isDigits rest

theorem NumberColumn.ReadFrom.of_readAs (hread : ReadAs (k.value v) (k.text r))
    (hlt : k.value v < k.limit) : k.ReadFrom r v where
  readAs := hread
  only hn := hn.unique hread
  below := hlt
  plain_iff := by rw [plainFigure_iff, and_iff_right hread]

theorem PhysicalVolume.readFrom_of_ofRow {v : PhysicalVolume} (h : ofRow r = .ok v) :
    ∀ k ∈ numberColumns, k.ReadFrom r v := by
  obtain ⟨attributes, -, h⟩ := exists_of_bind_eq_ok h
  obtain ⟨size, hsize, h⟩ := exists_of_bind_eq_ok h
  obtain ⟨free, hfree, h⟩ := exists_of_bind_eq_ok h
  obtain rfl := Except.ok.inj h
  simp only [numberColumns, List.forall_mem_cons, List.not_mem_nil, forall_false, implies_true,
    and_true]
  exact ⟨.of_readAs (number_word64_iff.mp hsize) size.toNat_lt_size,
    .of_readAs (number_word64_iff.mp hfree) free.toNat_lt_size⟩

theorem VolumeGroup.readFrom_of_ofRow {v : VolumeGroup} (h : ofRow r = .ok v) :
    ∀ k ∈ numberColumns, k.ReadFrom r v := by
  obtain ⟨attributes, -, h⟩ := exists_of_bind_eq_ok h
  obtain ⟨pvCount, hpvCount, h⟩ := exists_of_bind_eq_ok h
  obtain ⟨lvCount, hlvCount, h⟩ := exists_of_bind_eq_ok h
  obtain ⟨size, hsize, h⟩ := exists_of_bind_eq_ok h
  obtain ⟨free, hfree, h⟩ := exists_of_bind_eq_ok h
  obtain rfl := Except.ok.inj h
  simp only [numberColumns, List.forall_mem_cons, List.not_mem_nil, forall_false, implies_true,
    and_true]
  exact ⟨.of_readAs (number_word32_iff.mp hpvCount) pvCount.toNat_lt_size,
    .of_readAs (number_word32_iff.mp hlvCount) lvCount.toNat_lt_size,
    .of_readAs (number_word64_iff.mp hsize) size.toNat_lt_size,
    .of_readAs (number_word64_iff.mp hfree) free.toNat_lt_size⟩

theorem LogicalVolume.readFrom_of_ofRow {v : LogicalVolume} (h : ofRow r = .ok v) :
    ∀ k ∈ numberColumns, k.ReadFrom r v := by
  obtain ⟨attributes, -, h⟩ := exists_of_bind_eq_ok h
  obtain ⟨size, hsize, h⟩ := exists_of_bind_eq_ok h
  obtain rfl := Except.ok.inj h
  simp only [numberColumns, List.forall_mem_cons, List.not_mem_nil, forall_false, implies_true,
    and_true]
  exact .of_readAs (number_word64_iff.mp hsize) size.toNat_lt_size

/-! ## Reports -/

/-- How the report `output` deals with its columns of numbers. -/
structure ReadsNumbers (parse : String → Except ParseError (List α))
    (columns : List (NumberColumn α)) (output : String) : Prop where
  /-- If it is accepted, it has a record for every row, whose values are read from it. -/
  read {vs : List α} : parse output = .ok vs →
    List.Forall₂ (fun r v => ∀ k ∈ columns, k.ReadFrom r v) (rows output) vs
  /-- A row with a text that is not read as a number below the limit makes it fail. -/
  refused {line : List Char} {r : Row} {k : NumberColumn α} :
    line ∈ linesOf output → Line r line → k ∈ columns → (∀ n < k.limit, ¬ReadAs n (k.text r)) →
      ∃ cause, parse output = .error cause

theorem readsNumbers_of {ofRow : Row → Except ParseError α}
    (h : ∀ {r v}, ofRow r = .ok v → ∀ k ∈ columns, k.ReadFrom r v) (output : String) :
    ReadsNumbers (fun output => (rows output).mapM ofRow) columns output where
  read hok := (forall₂_of_mapM hok).imp fun _ _ => h
  refused {line r k} hline hr hk hbad := by
    refine exists_mapM_error_iff.mpr
      ⟨r, List.mem_filterMap.mpr ⟨line, hline, hr.row?_eq⟩, ?_⟩
    cases hread : ofRow r with
    | error cause => exact ⟨cause, rfl⟩
    | ok v => exact absurd (h hread k hk).readAs (hbad _ (h hread k hk).below)

end NumberColumn

/-- **The three reports** take from a column of numbers what stands before its point. -/
theorem readsNumbers_reports (output : String) :
    ReadsNumbers PhysicalVolume.parseReport PhysicalVolume.numberColumns output ∧
      ReadsNumbers VolumeGroup.parseReport VolumeGroup.numberColumns output ∧
        ReadsNumbers LogicalVolume.parseReport LogicalVolume.numberColumns output :=
  ⟨readsNumbers_of PhysicalVolume.readFrom_of_ofRow output,
    readsNumbers_of VolumeGroup.readFrom_of_ofRow output,
    readsNumbers_of LogicalVolume.readFrom_of_ofRow output⟩

/-- A size with letters behind its point, a count with a plus sign, and a size that ends with its
point: the reports are accepted, and no row has a plain figure. -/
theorem accepted_not_plain :
    (¬∀ output vs, PhysicalVolume.parseReport output = .ok vs →
      List.Forall₂ (fun r v => PlainFigure v.size.toNat r.fifth) (rows output) vs) ∧
    (¬∀ output vs, VolumeGroup.parseReport output = .ok vs →
      List.Forall₂ (fun r v => PlainFigure v.pvCount.toNat r.second) (rows output) vs) ∧
    ¬∀ output vs, LogicalVolume.parseReport output = .ok vs →
      List.Forall₂ (fun r v => PlainFigure v.size.toNat r.fourth) (rows output) vs := by
  refine ⟨fun h => ?_, fun h => ?_, fun h => ?_⟩
  · have hrow := h "/dev/sda2,vg0,lvm2,a--,100.junk,25" _ rfl
    have hplain := plainFigure_iff.mp (List.forall₂_cons.mp hrow).1
    exact absurd (hplain.2.2 _ rfl) (by decide)
  · have hrow := h "vg0,+1,1,wz--n-,8,8" _ rfl
    have hplain := plainFigure_iff.mp (List.forall₂_cons.mp hrow).1
    exact absurd hplain.2.1 (by decide)
  · have hrow := h "root,vg0,-wi-ao----,7.,,/dev/vg0/root" _ rfl
    have hplain := plainFigure_iff.mp (List.forall₂_cons.mp hrow).1
    exact absurd (hplain.2.2 _ rfl) (by decide)

end StorageTopology.Lvm
