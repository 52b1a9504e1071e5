import StorageTopology.Failure
import StorageTopology.Lvm.Record
import StorageTopology.Text.Blank

/-!
# Volume reports

A report is lines of six columns with commas between them; the three `parseReport` are
`parse_pvs`, `parse_vgs` and `parse_lvs`, and `rows` is `report_rows`. Warnings are captured along
with the rows, so a line that is not shaped like a row is skipped: a blank one, one that starts
with `WARNING:`, and one with another number of columns. A row with a bad value is an error; its
attributes are looked at first, then its numbers from left to right.

Some versions of the tools print whole numbers with a fraction, so a number ends at its first
point.
-/

namespace StorageTopology.Lvm

/-- The start of a line that warns. -/
def warningMark : String := "WARNING:"

/-- A row: six columns without the blanks around them. -/
structure Row where
  first : List Char
  second : List Char
  third : List Char
  fourth : List Char
  fifth : List Char
  sixth : List Char
  deriving DecidableEq, Repr

/-- The columns of a line, if it is shaped like a row. -/
def row? (line : List Char) : Option Row :=
  let text := Text.trimmed line
  if warningMark.toList.isPrefixOf text then none
  else
    match (text.splitOn ',').map Text.trimmed with
    | [a, b, c, d, e, f] => some ⟨a, b, c, d, e, f⟩
    | _ => none

/-- The rows of a report. -/
def rows (output : String) : List Row :=
  (output.toList.splitOn '\n').filterMap row?

/-- Read a column. -/
def column {α : Type} (name : String) (read : List Char → Option α) (value : List Char) :
    Except ParseError α :=
  match read value with
  | some a => .ok a
  | none => .error (.badColumn name (String.ofList value))

/-- A number column that `read` reads up to the first point. -/
def number {α : Type} (name : String) (read : List Char → Option α) (value : List Char) :
    Except ParseError α :=
  column name (fun cs => read (cs.takeWhile (· ≠ '.'))) value

/-- The text of a column, none if it is empty. -/
def nonEmpty (value : List Char) : Option String :=
  if value.isEmpty then none else some (String.ofList value)

namespace PhysicalVolume

/-- The columns that a report of physical volumes is asked for. -/
def columns : String := "pv_name,vg_name,pv_fmt,pv_attr,pv_size,pv_free"

/-- The volume that a row describes. -/
def ofRow (r : Row) : Except ParseError PhysicalVolume := do
  let attributes ← column "pv_attr" (fun cs => PvAttributes.parse? (String.ofList cs)) r.fourth
  let size ← number "pv_size" Decimal.word64? r.fifth
  let free ← number "pv_free" Decimal.word64? r.sixth
  .ok ⟨String.ofList r.first, nonEmpty r.second, String.ofList r.third, attributes, size, free⟩

/-- The volumes of a report. -/
def parseReport (output : String) : Except ParseError (List PhysicalVolume) :=
  (rows output).mapM ofRow

end PhysicalVolume

namespace VolumeGroup

/-- The columns that a report of volume groups is asked for. -/
def columns : String := "vg_name,pv_count,lv_count,vg_attr,vg_size,vg_free"

/-- The group that a row describes. -/
def ofRow (r : Row) : Except ParseError VolumeGroup := do
  let attributes ← column "vg_attr" (fun cs => VgAttributes.parse? (String.ofList cs)) r.fourth
  let pvCount ← number "pv_count" Decimal.word32? r.second
  let lvCount ← number "lv_count" Decimal.word32? r.third
  let size ← number "vg_size" Decimal.word64? r.fifth
  let free ← number "vg_free" Decimal.word64? r.sixth
  .ok ⟨String.ofList r.first, attributes, size, free, pvCount, lvCount⟩

/-- The groups of a report. -/
def parseReport (output : String) : Except ParseError (List VolumeGroup) :=
  (rows output).mapM ofRow

end VolumeGroup

namespace LogicalVolume

/-- The columns that a report of logical volumes is asked for. -/
def columns : String := "lv_name,vg_name,lv_attr,lv_size,pool_lv,lv_path"

/-- The volume that a row describes. -/
def ofRow (r : Row) : Except ParseError LogicalVolume := do
  let attributes ← column "lv_attr" (fun cs => LvAttributes.parse? (String.ofList cs)) r.third
  let size ← number "lv_size" Decimal.word64? r.fourth
  .ok ⟨String.ofList r.first, String.ofList r.second, attributes, size, nonEmpty r.fifth,
    String.ofList r.sixth⟩

/-- The volumes of a report. -/
def parseReport (output : String) : Except ParseError (List LogicalVolume) :=
  (rows output).mapM ofRow

end LogicalVolume

end StorageTopology.Lvm
