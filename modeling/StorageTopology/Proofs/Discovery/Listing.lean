import StorageTopology.Proofs.Discovery.Sources
import StorageTopology.Proofs.Disk.Faults
import StorageTopology.Proofs.Json.Record

/-!
# The order in which parted lists partitions

* `order_free_of_listings`: two outputs that list the same partitions in different orders are read
  alike, as the same disk or with the same fault; and which fault it is depends on the ordinals and
  the path of the disk alone.
-/

namespace StorageTopology.Parted

/-- The ordinals of the entries, in their order. -/
def Table.ordinals (t : Table) : List UInt32 := t.partitions.map (·.number)

/-- The result `r` of reading the table, by its ordinals in any order and its path: a fault of the
ordinals is reported before a missing path, a zero before one that repeats, and of those that
repeat the least. -/
structure Table.Reading (t : Table) (r : Except Failure Disk) : Prop where
  zero : 0 ∈ t.ordinals → r = .error (.topology (.invalidOrdinal t.path 0))
  repeated : 0 ∉ t.ordinals → ¬ t.ordinals.Nodup → ∃ n, Disk.IsLeastRepeated t.ordinals n ∧
    r = .error (.topology (.duplicateOrdinal t.path n))
  pathless : 0 ∉ t.ordinals → t.ordinals.Nodup → t.path = "" →
    r = .error (.topology (.path .emptyParent))
  accepted : 0 ∉ t.ordinals → t.ordinals.Nodup → t.path ≠ "" → ∃ d, r = .ok d

theorem Table.reading (t : Table) : t.Reading (t.toDisk.mapError .topology) := by
  obtain ⟨d, hpath, hordinals, hsettle⟩ := t.toDisk_eq_settle
  change d.ordinals = t.ordinals at hordinals
  rw [hsettle]
  refine ⟨?_, ?_, ?_, ?_⟩ <;> rw [← hordinals, ← hpath]
  · intro hzero
    rw [Disk.settle_of_zero hzero]
    rfl
  · intro hzero hrepeated
    obtain ⟨n, hn⟩ := Disk.exists_isLeastRepeated hrepeated
    rw [Disk.settle_of_repeated hzero hn]
    exact ⟨n, hn, rfl⟩
  · intro hzero hnodup hnone
    rw [Disk.settle_of_no_path hzero hnodup hnone]
    rfl
  · intro hzero hnodup hsome
    obtain ⟨e, he⟩ := Disk.exists_settle hsome hzero hnodup
    exact ⟨e, mapError_eq_ok_iff.mpr he⟩

/-- A table that lists the same entries in another order describes the same disk. -/
theorem Table.toDisk_relisted {t : Table} {entries : List Entry}
    (hperm : entries.Perm t.partitions) :
    ({ t with partitions := entries } : Table).toDisk = t.toDisk :=
  Disk.settle_relisted rfl (hperm.map Entry.toPartition)

theorem parse_of_ofOutput? {output : String} {t : Table} (h : Table.ofOutput? output = some t) :
    parse output = t.toDisk.mapError .topology := by
  unfold parse
  rw [h]

/-- **The order of the list has no part in what is read**, neither in a disk nor in a fault, and the
fault is one of the ordinals in any order. -/
theorem order_free_of_listings {output output' : String} {t : Table} {entries : List Entry}
    (h : Table.ofOutput? output = some t)
    (h' : Table.ofOutput? output' = some { t with partitions := entries })
    (hperm : entries.Perm t.partitions) :
    parse output' = parse output ∧ t.Reading (parse output) := by
  rw [parse_of_ofOutput? h, parse_of_ofOutput? h', Table.toDisk_relisted hperm]
  exact ⟨rfl, t.reading⟩

/-- The description of a disk without a path, whose entries have no more than they must have. -/
def bareListing (numbers : List Nat) : Json.Value :=
  .record [("disk", .record [("path", .str ""), ("size", .str ""),
    ("partitions", .array (numbers.map fun n =>
      .record [("number", .nat n), ("start", .str ""), ("end", .str ""), ("size", .str "")]))])]

theorem plain_bareListing (numbers : List Nat) : (bareListing numbers).Plain := by
  simp [bareListing]

/-- Of two ordinals that repeat, the greater one is listed first, or last. -/
theorem order_free_of_listings_repeated :
    parse (bareListing [7, 7, 2, 2]).compact = .error (.topology (.duplicateOrdinal "" 2)) ∧
      parse (bareListing [2, 7, 2, 7]).compact = .error (.topology (.duplicateOrdinal "" 2)) := by
  let entry (n : UInt32) : Entry := ⟨n, "", "", "", "", "", none⟩
  let t : Table := ⟨"", "", "", "", "", none, none, none, [entry 7, entry 7, entry 2, entry 2]⟩
  have ht : Table.ofOutput? (bareListing [7, 7, 2, 2]).compact = some t := by
    rw [Table.ofOutput?, Json.Value.parse?_compact (plain_bareListing _)]
    decide +kernel
  have ht' : Table.ofOutput? (bareListing [2, 7, 2, 7]).compact =
      some { t with partitions := [entry 2, entry 7, entry 2, entry 7] } := by
    rw [Table.ofOutput?, Json.Value.parse?_compact (plain_bareListing _)]
    decide +kernel
  have hperm : [entry 2, entry 7, entry 2, entry 7].Perm t.partitions := by decide
  obtain ⟨hsame, hreading⟩ := order_free_of_listings ht ht' hperm
  obtain ⟨n, hn, hparse⟩ := hreading.repeated (by decide) (by decide)
  have hle : n ≤ 2 := hn.2 2 (by decide)
  have hmem : n ∈ [7, 7, 2, 2] := List.count_pos_iff.mp (Nat.lt_of_lt_of_le Nat.zero_lt_two hn.1)
  obtain rfl : n = 2 := by
    simp only [List.mem_cons, List.not_mem_nil, or_false] at hmem
    rcases hmem with rfl | rfl | rfl | rfl
    · exact absurd hle (by decide)
    · exact absurd hle (by decide)
    · rfl
    · rfl
  exact ⟨hparse, hsame.trans hparse⟩

end StorageTopology.Parted
