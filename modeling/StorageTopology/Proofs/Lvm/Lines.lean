import StorageTopology.Proofs.Lvm.Rows
import StorageTopology.Proofs.Traversal

/-!
# Reports line by line

A report is read line by line, and a line is a row, or else noise.

* `row?_eq_none_iff`, `row?_eq_some_iff`: noise is exactly what no row is read from, and a row has
  the columns of its line.
* `FailsBy`: a reading that fails by the first of some values that is bad. It is kept by reading one
  more column first (`failsBy_bind`).
* `LineWise`: how a report is read line by line. `lineWise_of_failsBy`: rows that fail by their
  first bad value make a report that is.
* `lineWise_reports`: **the three reports are read line by line**.
-/

namespace StorageTopology.Lvm

open Text

/-! ## Lines with a row and lines without -/

/-- The line has the columns of the row, and is neither blank nor a warning. -/
structure Line (r : Row) (line : List Char) : Prop where
  meant : ¬Noise line
  columns : ((trimmed line).splitOn ',').map trimmed = r.columns

theorem noise_of_mark {line : List Char} (h : warningMark.toList <+: trimmed line) :
    Noise line := by
  obtain ⟨rest, hrest⟩ := h
  obtain ⟨before, after, hbefore, -, hline⟩ := exists_around_trimmed line
  rw [hline, ← hrest, ← List.append_assoc, List.append_assoc]
  exact .warning hbefore

theorem Row.exists_of_length {columns : List (List Char)} (h : columns.length = 6) :
    ∃ r : Row, columns = r.columns := by
  match columns, h with
  | [a, b, c, d, e, f], _ => exact ⟨⟨a, b, c, d, e, f⟩, rfl⟩

/-- Every line is noise or has a row. -/
theorem exists_row_of_not_noise {line : List Char} (h : ¬Noise line) : ∃ r, Line r line := by
  have hcount : line.count ',' = 5 := by
    by_contra hne
    exact h (.columns hne)
  have hlength : (((trimmed line).splitOn ',').map trimmed).length = 6 := by
    rw [List.length_map, length_splitOn, count_trimmed (by decide), hcount]
  obtain ⟨r, hr⟩ := Row.exists_of_length hlength
  exact ⟨r, h, hr⟩

theorem Line.row?_eq {line : List Char} {r : Row} (h : Line r line) : row? line = some r :=
  Row.row?_of_columns (fun hmark => h.meant (noise_of_mark hmark)) h.columns

/-- **Noise is all that no row is read from.** -/
theorem row?_eq_none_iff {line : List Char} : row? line = none ↔ Noise line := by
  refine ⟨fun h => ?_, row?_of_noise⟩
  by_contra hmeant
  obtain ⟨r, hr⟩ := exists_row_of_not_noise hmeant
  exact absurd (hr.row?_eq.symm.trans h) nofun

theorem row?_eq_some_iff {line : List Char} {r : Row} : row? line = some r ↔ Line r line := by
  refine ⟨fun h => ?_, Line.row?_eq⟩
  have hmeant : ¬Noise line := fun hnoise => absurd ((row?_of_noise hnoise).symm.trans h) nofun
  obtain ⟨r', hr'⟩ := exists_row_of_not_noise hmeant
  obtain rfl := Option.some.inj (hr'.row?_eq.symm.trans h)
  exact hr'

/-! ## Values that are looked at -/

/-- A value of a row that is looked at, under the name of its column. -/
structure Cell where
  name : String
  text : List Char
  readable : Bool

namespace Cell

/-- The code of attributes. -/
def attributes {α : Type} (name : String) (parse : String → Option α) (text : List Char) : Cell :=
  ⟨name, text, (parse (String.ofList text)).isSome⟩

/-- A number, up to its first point. -/
def number {α : Type} (name : String) (read : List Char → Option α) (text : List Char) : Cell :=
  ⟨name, text, (read (text.takeWhile (· ≠ '.'))).isSome⟩

/-- What is said of a bad value. -/
def complaint (c : Cell) : ParseError := .badColumn c.name (String.ofList c.text)

end Cell

/-- What is said of the first bad value, if there is one. -/
def complaint? (cells : List Cell) : Option ParseError :=
  (cells.find? (!·.readable)).map Cell.complaint

/-- The values that are looked at, in their order. -/
def PhysicalVolume.cells (r : Row) : List Cell :=
  [.attributes "pv_attr" PvAttributes.parse? r.fourth, .number "pv_size" Decimal.word64? r.fifth,
    .number "pv_free" Decimal.word64? r.sixth]

/-- The values that are looked at, in their order. -/
def VolumeGroup.cells (r : Row) : List Cell :=
  [.attributes "vg_attr" VgAttributes.parse? r.fourth,
    .number "pv_count" Decimal.word32? r.second, .number "lv_count" Decimal.word32? r.third,
    .number "vg_size" Decimal.word64? r.fifth, .number "vg_free" Decimal.word64? r.sixth]

/-- The values that are looked at, in their order. -/
def LogicalVolume.cells (r : Row) : List Cell :=
  [.attributes "lv_attr" LvAttributes.parse? r.third, .number "lv_size" Decimal.word64? r.fourth]

/-! ## Failing by the first bad value -/

/-- The reading fails exactly if one of the values is bad, by the first such value. -/
def FailsBy {α : Type} (reading : Except ParseError α) (cells : List Cell) : Prop :=
  ∀ cause, reading = .error cause ↔ complaint? cells = some cause

section FailsBy

variable {α β : Type} {cells : List Cell} {name : String} {text : List Char}

theorem complaint?_eq_none_iff : complaint? cells = none ↔ ∀ c ∈ cells, c.readable := by
  simp [complaint?]

theorem FailsBy.ok_iff {reading : Except ParseError α} (h : FailsBy reading cells) :
    (∃ a, reading = .ok a) ↔ ∀ c ∈ cells, c.readable := by
  rw [← complaint?_eq_none_iff]
  cases reading with
  | error cause => exact iff_of_false nofun fun hnone => by simp [(h cause).mp rfl] at hnone
  | ok a =>
    refine iff_of_true ⟨a, rfl⟩ (Option.eq_none_iff_forall_ne_some.mpr fun cause hcause => ?_)
    exact absurd ((h cause).mpr hcause) nofun

theorem FailsBy.error_iff {reading : Except ParseError α} (h : FailsBy reading cells) :
    (∃ cause, reading = .error cause) ↔ ∃ c ∈ cells, c.readable = false := by
  simp only [h _, ← Option.isSome_iff_exists, complaint?, Option.isSome_map, List.find?_isSome,
    Bool.not_eq_true']

theorem failsBy_ok (a : α) : FailsBy (.ok a) [] := fun _ => iff_of_false nofun nofun

/-- A column that is read first. -/
theorem failsBy_bind {read : List Char → Option α} {more : α → Except ParseError β}
    (h : ∀ a, FailsBy (more a) cells) :
    FailsBy (column name read text >>= more) (⟨name, text, (read text).isSome⟩ :: cells) := by
  intro cause
  unfold column complaint?
  cases hread : read text with
  | none =>
    rw [List.find?_cons_of_pos rfl]
    exact ⟨fun h => congrArg some (Except.error.inj h),
      fun h => congrArg Except.error (Option.some.inj h)⟩
  | some a =>
    rw [List.find?_cons_of_neg (by simp)]
    exact h a cause

end FailsBy

theorem PhysicalVolume.failsBy_ofRow (r : Row) : FailsBy (ofRow r) (cells r) :=
  failsBy_bind fun _ => failsBy_bind fun _ => failsBy_bind fun _ => failsBy_ok _

theorem VolumeGroup.failsBy_ofRow (r : Row) : FailsBy (ofRow r) (cells r) :=
  failsBy_bind fun _ => failsBy_bind fun _ => failsBy_bind fun _ => failsBy_bind fun _ =>
    failsBy_bind fun _ => failsBy_ok _

theorem LogicalVolume.failsBy_ofRow (r : Row) : FailsBy (ofRow r) (cells r) :=
  failsBy_bind fun _ => failsBy_bind fun _ => failsBy_ok _

/-! ## Reports -/

/-- The lines of a report. -/
def linesOf (output : String) : List (List Char) := output.toList.splitOn '\n'

/-- How reports are read line by line, if `cells` are the values of a row that are looked at. -/
structure LineWise {α : Type} (parse : String → Except ParseError (List α))
    (cells : Row → List Cell) : Prop where
  /-- What stands before a line feed is read first, and what stands behind it next. -/
  append : ∀ before after, parse (before ++ "\n" ++ after) = do
    let vs ← parse before
    let ws ← parse after
    pure (vs ++ ws)
  /-- A line of noise may stand anywhere among the pieces of a report, or be missing there. -/
  noise : ∀ line : String, '\n' ∉ line.toList → Noise line.toList → ∀ before after,
    parse ("\n".intercalate (before ++ line :: after)) = parse ("\n".intercalate (before ++ after))
  /-- A report fails exactly if a value of a row on one of its lines is bad. -/
  fails_iff : ∀ output, (∃ cause, parse output = .error cause) ↔
    ∃ line ∈ linesOf output, ∃ r, Line r line ∧ ∃ c ∈ cells r, c.readable = false
  /-- It fails by the first bad value on the first such line. -/
  fails_by : ∀ output cause, parse output = .error cause ↔
    ∃ before line after r, linesOf output = before ++ line :: after ∧
      (∀ line' ∈ before, ∀ r', Line r' line' → ∀ c ∈ cells r', c.readable) ∧
        Line r line ∧ complaint? (cells r) = some cause

theorem rows_of_noise {line : String} (hfeed : '\n' ∉ line.toList) (h : Noise line.toList) :
    rows line = [] := by
  rw [rows_of_not_mem hfeed, row?_of_noise h]
  rfl

/-- The rows of lines that are put together. -/
theorem rows_intercalate : ∀ pieces : List String,
    rows ("\n".intercalate pieces) = pieces.flatMap rows
  | [] => by decide
  | [piece] => by simp
  | piece :: next :: pieces => by
    rw [String.intercalate_cons_cons, rows_append_line, rows_intercalate (next :: pieces)]
    rfl

/-- The rows before a row are those of the lines before its line. -/
theorem rows_eq_append_cons_iff {output : String} {earlier later : List Row} {r : Row} :
    rows output = earlier ++ r :: later ↔ ∃ before line after,
      linesOf output = before ++ line :: after ∧ before.filterMap row? = earlier ∧ Line r line ∧
        after.filterMap row? = later := by
  constructor
  · intro h
    obtain ⟨before, rest, hlines, hbefore, hrest⟩ := List.filterMap_eq_append_iff.mp h
    obtain ⟨skipped, line, after, rfl, hskipped, hline, hafter⟩ :=
      List.filterMap_eq_cons_iff.mp hrest
    refine ⟨before ++ skipped, line, after, ?_, ?_, row?_eq_some_iff.mp hline, hafter⟩
    · rw [List.append_assoc]
      exact hlines
    · rw [List.filterMap_append, hbefore, List.filterMap_eq_nil_iff.mpr hskipped,
        List.append_nil]
  · rintro ⟨before, line, after, hlines, rfl, hline, rfl⟩
    calc rows output = (before ++ line :: after).filterMap row? := by rw [← hlines]; rfl
      _ = before.filterMap row? ++ r :: after.filterMap row? := by
        rw [List.filterMap_append, List.filterMap_cons_some hline.row?_eq]

/-- The rows of some lines are in order if those lines are. -/
theorem forall_mem_filterMap_row?_iff {lines : List (List Char)} {P : Row → Prop} :
    (∀ r ∈ lines.filterMap row?, P r) ↔ ∀ line ∈ lines, ∀ r, Line r line → P r := by
  simp only [List.mem_filterMap, row?_eq_some_iff]
  exact ⟨fun h line hline r hr => h r ⟨line, hline, hr⟩,
    fun h r ⟨line, hline, hr⟩ => h line hline r hr⟩

section LineWise

variable {α : Type} {ofRow : Row → Except ParseError α} {cells : Row → List Cell} {output : String}

theorem mapM_rows_fails_iff (h : ∀ r, FailsBy (ofRow r) (cells r)) :
    (∃ cause, (rows output).mapM ofRow = .error cause) ↔
      ∃ line ∈ linesOf output, ∃ r, Line r line ∧ ∃ c ∈ cells r, c.readable = false := by
  rw [exists_mapM_error_iff]
  constructor
  · rintro ⟨r, hr, hfails⟩
    obtain ⟨line, hline, hrow⟩ := List.mem_filterMap.mp hr
    exact ⟨line, hline, r, row?_eq_some_iff.mp hrow, (h r).error_iff.mp hfails⟩
  · rintro ⟨line, hline, r, hr, hbad⟩
    exact ⟨r, List.mem_filterMap.mpr ⟨line, hline, hr.row?_eq⟩, (h r).error_iff.mpr hbad⟩

theorem mapM_rows_eq_error_iff (h : ∀ r, FailsBy (ofRow r) (cells r)) {cause : ParseError} :
    (rows output).mapM ofRow = .error cause ↔
      ∃ before line after r, linesOf output = before ++ line :: after ∧
        (∀ line' ∈ before, ∀ r', Line r' line' → ∀ c ∈ cells r', c.readable) ∧
          Line r line ∧ complaint? (cells r) = some cause := by
  rw [mapM_eq_error_iff]
  constructor
  · rintro ⟨earlier, r, later, hrows, hearlier, hfails⟩
    obtain ⟨before, line, after, hlines, rfl, hline, -⟩ := rows_eq_append_cons_iff.mp hrows
    refine ⟨before, line, after, r, hlines, forall_mem_filterMap_row?_iff.mp ?_, hline,
      (h r cause).mp hfails⟩
    exact fun r' hr' => (h r').ok_iff.mp (hearlier r' hr')
  · rintro ⟨before, line, after, r, hlines, hbefore, hline, hbad⟩
    refine ⟨before.filterMap row?, r, after.filterMap row?,
      rows_eq_append_cons_iff.mpr ⟨before, line, after, hlines, rfl, hline, rfl⟩, ?_,
      (h r cause).mpr hbad⟩
    exact fun r' hr' => (h r').ok_iff.mpr (forall_mem_filterMap_row?_iff.mpr hbefore r' hr')

theorem lineWise_of_failsBy (h : ∀ r, FailsBy (ofRow r) (cells r)) :
    LineWise (fun output => (rows output).mapM ofRow) cells where
  append before after := by rw [rows_append_line, List.mapM_append]
  noise line hfeed hnoise before after := by
    rw [rows_intercalate, rows_intercalate, List.flatMap_append, List.flatMap_append,
      List.flatMap_cons, rows_of_noise hfeed hnoise, List.nil_append]
  fails_iff _ := mapM_rows_fails_iff h
  fails_by _ _ := mapM_rows_eq_error_iff h

end LineWise

/-- **The three reports are read line by line.** -/
theorem lineWise_reports :
    LineWise PhysicalVolume.parseReport PhysicalVolume.cells ∧
      LineWise VolumeGroup.parseReport VolumeGroup.cells ∧
        LineWise LogicalVolume.parseReport LogicalVolume.cells :=
  ⟨lineWise_of_failsBy PhysicalVolume.failsBy_ofRow, lineWise_of_failsBy VolumeGroup.failsBy_ofRow,
    lineWise_of_failsBy LogicalVolume.failsBy_ofRow⟩

/-- The attributes are looked at before a count that stands in front of them. -/
example : VolumeGroup.parseReport "warning\nvg0,many,1,x,8,8" =
    .error (.badColumn "vg_attr" "x") := by
  decide

end StorageTopology.Lvm
