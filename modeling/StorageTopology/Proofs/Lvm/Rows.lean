import Mathlib.Data.List.Infix
import StorageTopology.Proofs.Lvm.Codes
import StorageTopology.Proofs.Lvm.Figures

/-!
# Rows that show records

The tools print a record as a row of six columns: texts as they are, attributes as their code, sizes
and counts in decimal with or without a fraction (`Figure`).

* `row?_padded`: a row is found again on its line, whatever blank characters are around it, if its
  columns can stand in a row at all (`Row.WellFormed`).
* `row?_of_noise`: a line that is blank, warns, or has another number of columns has no row.
* `ofRow_of_shows`: a record that can be printed is read back from every row that shows it.
-/

namespace StorageTopology.Lvm

open Decimal Text

/-! ## Columns -/

/-- A text that can stand in a column: it has no comma and no line feed, and no blank character at
either end. -/
structure Fits (cs : List Char) : Prop where
  tight : Tight cs
  comma : ',' ∉ cs
  feed : '\n' ∉ cs

theorem fits_of_forall {cs : List Char} (h : ∀ c ∈ cs, isBlank c = false ∧ c ≠ ',') : Fits cs where
  tight := tight_of_forall fun c hc => (h c hc).1
  comma hmem := (h _ hmem).2 rfl
  feed hmem := absurd (h _ hmem).1 (by decide)

theorem fits_of_isCodeChar {cs : List Char} (h : ∀ c ∈ cs, isCodeChar c) : Fits cs := by
  refine fits_of_forall fun c hc => ⟨not_isBlank_of_isCodeChar (h c hc), ?_⟩
  rintro rfl
  exact absurd (h _ hc) (by decide)

/-- A text column, none if it is empty. -/
theorem nonEmpty_getD {text : Option String} (h : text ≠ some "") :
    nonEmpty (text.getD "").toList = text := by
  cases text with
  | none => rfl
  | some s =>
    have hs : s ≠ "" := fun heq => h (congrArg some heq)
    simp [nonEmpty, hs]

/-! ## Figures -/

/-- `cs` writes the number `n`: its decimal digits, which may be followed by a point and more
digits. -/
inductive Figure (n : Nat) : List Char → Prop where
  | whole {digits : List Char} (hdigits : isDigits digits)
      (hn : Nat.ofDigitChars 10 digits 0 = n) : Figure n digits
  | fraction {digits decimals : List Char} (hdigits : isDigits digits)
      (hn : Nat.ofDigitChars 10 digits 0 = n) (hdecimals : ∀ c ∈ decimals, c.isDigit) :
      Figure n (digits ++ '.' :: decimals)

namespace Figure

variable {n : Nat} {cs : List Char}

theorem fits (h : Figure n cs) : Fits cs := by
  have hdigit : ∀ c : Char, c.isDigit → isBlank c = false ∧ c ≠ ',' := by
    intro c hc
    refine ⟨not_isBlank_of_isAlphanum (by simp [Char.isAlphanum, hc]), ?_⟩
    rintro rfl
    exact absurd hc (by decide)
  refine fits_of_forall fun c hc => ?_
  cases h with
  | whole hdigits hn => exact hdigit c (isDigit_of_mem hdigits c hc)
  | fraction hdigits hn hdecimals =>
    rcases List.mem_append.mp hc with hc | hc
    · exact hdigit c (isDigit_of_mem hdigits c hc)
    · rcases List.mem_cons.mp hc with rfl | hc
      · decide
      · exact hdigit c (hdecimals c hc)

theorem readAs (h : Figure n cs) : ReadAs n cs := by
  cases h with
  | whole hdigits hn => exact ⟨_, (unsigned_of_isDigits hdigits).mpr hn, .inl rfl⟩
  | fraction hdigits hn hdecimals =>
    exact ⟨_, (unsigned_of_isDigits hdigits).mpr hn, .inr ⟨_, rfl⟩⟩

theorem number_word64 {size : UInt64} (h : Figure size.toNat cs) (name : String) :
    number name word64? cs = .ok size :=
  number_word64_iff.mpr h.readAs

theorem number_word32 {count : UInt32} (h : Figure count.toNat cs) (name : String) :
    number name word32? cs = .ok count :=
  number_word32_iff.mpr h.readAs

end Figure

/-! ## Rows -/

namespace Row

/-- The columns of a row in order. -/
def columns (r : Row) : List (List Char) :=
  [r.first, r.second, r.third, r.fourth, r.fifth, r.sixth]

theorem forall_mem_columns {r : Row} {P : List Char → Prop} :
    (∀ cs ∈ r.columns, P cs) ↔
      P r.first ∧ P r.second ∧ P r.third ∧ P r.fourth ∧ P r.fifth ∧ P r.sixth := by
  simp [columns]

/-- The line of a row: its columns with commas between them. -/
def line (r : Row) : List Char := [','].intercalate r.columns

/-- Every column can stand in a row, and the row does not look like a warning. -/
structure WellFormed (r : Row) : Prop where
  fits : ∀ cs ∈ r.columns, Fits cs
  unmarked : ¬warningMark.toList <+: r.first

variable {r : Row}

/-- Where the first and the last column are. -/
theorem line_eq (r : Row) :
    r.line = r.first ++ ',' :: (r.second ++ ',' :: r.third ++ ',' :: r.fourth ++ ',' :: r.fifth) ++
      ',' :: r.sixth := by
  simp [line, columns, List.intercalate_cons_cons]

theorem tight_between {first middle last : List Char} (hfirst : Tight first) (hlast : Tight last) :
    Tight (first ++ ',' :: middle ++ ',' :: last) where
  first c hc := by
    rw [List.append_assoc, List.head?_append] at hc
    cases hhead : first.head? with
    | none =>
      rw [hhead] at hc
      obtain rfl := Option.some.inj hc
      decide
    | some d =>
      rw [hhead] at hc
      obtain rfl := Option.some.inj hc
      exact hfirst.first d hhead
  last c hc := by
    rw [List.getLast?_append, List.getLast?_cons] at hc
    cases hback : last.getLast? with
    | none =>
      rw [hback] at hc
      obtain rfl := Option.some.inj hc
      decide
    | some d =>
      rw [hback] at hc
      obtain rfl := Option.some.inj hc
      exact hlast.last d hback

theorem WellFormed.tight_line (h : r.WellFormed) : Tight r.line := by
  obtain ⟨hfirst, -, -, -, -, hsixth⟩ := forall_mem_columns.mp h.fits
  rw [line_eq]
  exact tight_between hfirst.tight hsixth.tight

theorem WellFormed.feed_line (h : r.WellFormed) : '\n' ∉ r.line := by
  intro hmem
  have hcolumns := forall_mem_columns.mp fun cs hcs => (h.fits cs hcs).feed
  rw [line_eq] at hmem
  simp [hcolumns] at hmem

/-- What a text starts with ends before the first separator, if there is none in it. -/
theorem prefix_of_prefix_append_cons {sep : Char} : ∀ {mark first rest : List Char},
    mark <+: first ++ sep :: rest → sep ∉ mark → mark <+: first
  | [], _, _, _, _ => List.nil_prefix
  | c :: mark, [], _, h, hsep => by
    obtain ⟨rfl, -⟩ := List.cons_prefix_cons.mp h
    exact absurd List.mem_cons_self hsep
  | c :: mark, d :: first, _, h, hsep => by
    obtain ⟨rfl, htail⟩ := List.cons_prefix_cons.mp h
    have hrest : mark <+: first :=
      prefix_of_prefix_append_cons htail fun hmem => hsep (List.mem_cons_of_mem _ hmem)
    exact List.cons_prefix_cons.mpr ⟨rfl, hrest⟩

/-- The mark of a warning has no comma, so it stands in the first column or not at all. -/
theorem WellFormed.unmarked_line (h : r.WellFormed) : ¬warningMark.toList <+: r.line := by
  intro hmark
  rw [line_eq, List.append_assoc] at hmark
  exact h.unmarked (prefix_of_prefix_append_cons hmark (by decide))

/-- A line that is not a warning has the row of its columns. -/
theorem row?_of_columns {line : List Char}
    (hmark : ¬warningMark.toList <+: trimmed line)
    (h : ((trimmed line).splitOn ',').map trimmed = r.columns) : row? line = some r := by
  unfold row?
  simp only [h]
  rw [if_neg (by simpa using hmark)]
  rfl

/-- **A row is found again on its line.** -/
theorem row?_padded (h : r.WellFormed) {before after : List Char}
    (hbefore : ∀ c ∈ before, isBlank c) (hafter : ∀ c ∈ after, isBlank c) :
    row? (before ++ r.line ++ after) = some r := by
  have htrimmed : trimmed (before ++ r.line ++ after) = r.line :=
    trimmed_padded hbefore hafter h.tight_line
  have hsplit : r.line.splitOn ',' = r.columns :=
    List.splitOn_intercalate ',' (fun cs hcs => (h.fits cs hcs).comma) (by simp [columns])
  have hcolumns : r.columns.map trimmed = r.columns :=
    (List.map_congr_left fun cs hcs => (h.fits cs hcs).tight.trimmed_eq).trans (List.map_id _)
  refine row?_of_columns ?_ ?_
  · rw [htrimmed]
    exact h.unmarked_line
  · rw [htrimmed, hsplit, hcolumns]

end Row

/-! ## Lines without a row -/

/-- A line that no row is read from. -/
inductive Noise : List Char → Prop where
  | blank {line : List Char} (h : ∀ c ∈ line, isBlank c) : Noise line
  | warning {before rest : List Char} (h : ∀ c ∈ before, isBlank c) :
      Noise (before ++ warningMark.toList ++ rest)
  | columns {line : List Char} (h : line.count ',' ≠ 5) : Noise line

theorem length_splitOn (a : Char) (cs : List Char) :
    (cs.splitOn a).length = cs.count a + 1 := by
  induction cs with
  | nil => simp
  | cons c cs ih =>
    rw [List.splitOn_cons_eq_if_modifyHead, List.count_cons]
    split <;> simp_all

theorem row?_of_count {line : List Char} (h : line.count ',' ≠ 5) : row? line = none := by
  have hlength : (((trimmed line).splitOn ',').map trimmed).length ≠ 6 := by
    rw [List.length_map, length_splitOn, count_trimmed (by decide)]
    omega
  unfold row?
  simp only
  split_ifs
  · rfl
  · split
    · rename_i heq
      rw [heq] at hlength
      exact absurd rfl hlength
    · rfl

/-- **No row is read from noise.** -/
theorem row?_of_noise {line : List Char} (h : Noise line) : row? line = none := by
  cases h with
  | blank h =>
    refine row?_of_count ?_
    rw [← count_trimmed (by decide), trimmed_of_all h]
    decide
  | @warning before rest h =>
    have hplain : warningMark.toList.all (!isBlank ·) := by decide
    have htight : Tight warningMark.toList := tight_of_forall (by simpa using hplain)
    have hmark : warningMark.toList <+: trimmed (before ++ warningMark.toList ++ rest) :=
      prefix_trimmed h htight (by decide)
    unfold row?
    simp only
    rw [if_pos (List.isPrefixOf_iff_prefix.mpr hmark)]
  | columns h => exact row?_of_count h

/-! ## Lines of a report -/

/-- What stands before a line feed and what stands behind it are separate lines. -/
theorem rows_append_line (before after : String) :
    rows (before ++ "\n" ++ after) = rows before ++ rows after := by
  unfold rows
  have htext : (before ++ "\n" ++ after).toList = before.toList ++ '\n' :: after.toList := by
    rw [String.toList_append, String.toList_append, List.append_assoc]
    rfl
  rw [htext, List.splitOn_append_cons_self, List.filterMap_append]

/-- A text of one line has the row of that line. -/
theorem rows_of_not_mem {text : String} (h : '\n' ∉ text.toList) :
    rows text = (row? text.toList).toList := by
  unfold rows
  rw [List.splitOn_eq_singleton h]
  cases hrow : row? text.toList <;> simp [hrow]

/-! ## Records -/

/-- The name of a record: it stands in the first column, where it must not look like a warning. -/
structure FitsFirst (name : String) : Prop where
  fits : Fits name.toList
  unmarked : ¬warningMark.toList <+: name.toList

/-- A text that may be missing stands in a column; an empty column means that it is. -/
structure FitsOptional (text : Option String) : Prop where
  fits : Fits (text.getD "").toList
  nonEmpty : text ≠ some ""

namespace PhysicalVolume

/-- A volume that can be printed. -/
structure Reportable (v : PhysicalVolume) : Prop where
  device : FitsFirst v.device
  vgName : FitsOptional v.vgName
  format : Fits v.format.toList
  attributes : v.attributes.Representable

/-- The row prints the volume, in the order of `columns`. -/
structure Shows (v : PhysicalVolume) (r : Row) : Prop where
  device : r.first = v.device.toList
  vgName : r.second = (v.vgName.getD "").toList
  format : r.third = v.format.toList
  attributes : r.fourth = v.attributes.code
  size : Figure v.size.toNat r.fifth
  free : Figure v.free.toNat r.sixth

variable {v : PhysicalVolume} {r : Row}

theorem wellFormed_of_shows (hv : v.Reportable) (h : v.Shows r) : r.WellFormed where
  fits := by
    rw [Row.forall_mem_columns, h.device, h.vgName, h.format, h.attributes]
    exact ⟨hv.device.fits, hv.vgName.fits, hv.format,
      fits_of_isCodeChar v.attributes.isCodeChar_code, h.size.fits, h.free.fits⟩
  unmarked := h.device ▸ hv.device.unmarked

/-- **A volume is read back from its row.** -/
theorem ofRow_of_shows (hv : v.Reportable) (h : v.Shows r) : ofRow r = .ok v := by
  have hattributes : PvAttributes.parse? (String.ofList r.fourth) = some v.attributes := by
    rw [h.attributes, PvAttributes.parse?_code hv.attributes]
  unfold ofRow
  rw [column_eq_ok_iff.mpr hattributes, h.size.number_word64, h.free.number_word64, h.device,
    h.vgName, h.format, nonEmpty_getD hv.vgName.nonEmpty, String.ofList_toList,
    String.ofList_toList]
  rfl

end PhysicalVolume

namespace VolumeGroup

/-- A group that can be printed. -/
structure Reportable (v : VolumeGroup) : Prop where
  name : FitsFirst v.name
  attributes : v.attributes.Representable

/-- The row prints the group, in the order of `columns`. -/
structure Shows (v : VolumeGroup) (r : Row) : Prop where
  name : r.first = v.name.toList
  pvCount : Figure v.pvCount.toNat r.second
  lvCount : Figure v.lvCount.toNat r.third
  attributes : r.fourth = v.attributes.code
  size : Figure v.size.toNat r.fifth
  free : Figure v.free.toNat r.sixth

variable {v : VolumeGroup} {r : Row}

theorem wellFormed_of_shows (hv : v.Reportable) (h : v.Shows r) : r.WellFormed where
  fits := by
    rw [Row.forall_mem_columns, h.name, h.attributes]
    exact ⟨hv.name.fits, h.pvCount.fits, h.lvCount.fits,
      fits_of_isCodeChar v.attributes.isCodeChar_code, h.size.fits, h.free.fits⟩
  unmarked := h.name ▸ hv.name.unmarked

/-- **A group is read back from its row.** -/
theorem ofRow_of_shows (hv : v.Reportable) (h : v.Shows r) : ofRow r = .ok v := by
  have hattributes : VgAttributes.parse? (String.ofList r.fourth) = some v.attributes := by
    rw [h.attributes, VgAttributes.parse?_code hv.attributes]
  unfold ofRow
  rw [column_eq_ok_iff.mpr hattributes, h.pvCount.number_word32, h.lvCount.number_word32,
    h.size.number_word64, h.free.number_word64, h.name, String.ofList_toList]
  rfl

end VolumeGroup

namespace LogicalVolume

/-- A volume that can be printed. -/
structure Reportable (v : LogicalVolume) : Prop where
  name : FitsFirst v.name
  vgName : Fits v.vgName.toList
  pool : FitsOptional v.pool
  devicePath : Fits v.devicePath.toList

/-- The row prints the volume, in the order of `columns`. -/
structure Shows (v : LogicalVolume) (r : Row) : Prop where
  name : r.first = v.name.toList
  vgName : r.second = v.vgName.toList
  attributes : r.third = v.attributes.code
  size : Figure v.size.toNat r.fourth
  pool : r.fifth = (v.pool.getD "").toList
  devicePath : r.sixth = v.devicePath.toList

variable {v : LogicalVolume} {r : Row}

theorem wellFormed_of_shows (hv : v.Reportable) (h : v.Shows r) : r.WellFormed where
  fits := by
    rw [Row.forall_mem_columns, h.name, h.vgName, h.attributes, h.pool, h.devicePath]
    exact ⟨hv.name.fits, hv.vgName, fits_of_isCodeChar v.attributes.isCodeChar_code, h.size.fits,
      hv.pool.fits, hv.devicePath⟩
  unmarked := h.name ▸ hv.name.unmarked

/-- **A volume is read back from its row.** -/
theorem ofRow_of_shows (hv : v.Reportable) (h : v.Shows r) : ofRow r = .ok v := by
  have hattributes : LvAttributes.parse? (String.ofList r.third) = some v.attributes := by
    rw [h.attributes, LvAttributes.parse?_code v.attributes]
  unfold ofRow
  rw [column_eq_ok_iff.mpr hattributes, h.size.number_word64, h.name, h.vgName, h.pool,
    h.devicePath, nonEmpty_getD hv.pool.nonEmpty, String.ofList_toList, String.ofList_toList,
    String.ofList_toList]
  rfl

end LogicalVolume

end StorageTopology.Lvm
