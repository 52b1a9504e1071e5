import StorageTopology.Decimal.Fixed
import StorageTopology.Disk.Free
import StorageTopology.Text.Column

/-!
# Disks as tables

`volbridge-locate` shows a disk as a line about the whole, an empty line, the names of the
columns, and a line for each partition. Unallocated regions are shown with two places after the
point. Columns are filled up to their width and never cut.
-/

namespace StorageTopology.CommandLine

/-- A line of the table of partitions: the first, second and fourth columns are filled on the
right, the third on the left, and the fifth not at all. -/
def row (number path size filesystem mounts : String) : String :=
  Text.padEnd 4 number ++ " " ++ Text.padEnd 20 path ++ " " ++ Text.padStart 12 size ++ " "
    ++ Text.padEnd 12 filesystem ++ " " ++ mounts

/-- The line of a partition, with a hyphen for what is not known. -/
def partitionRow (p : Partition) : String :=
  row p.number.toNat.repr (p.path.getD "-") p.size (p.filesystem.getD "-")
    (",".intercalate p.mountPoints)

/-- The lines that show a disk. -/
def diskLines (d : Disk) : List String :=
  [d.path ++ "  " ++ d.size ++ "  " ++ d.label ++ "  " ++ d.transport ++ "  " ++ d.model,
    "", row "NUM" "PATH" "SIZE" "FS" "MOUNTS"] ++ d.partitions.map partitionRow

/-- The line of an unallocated region. -/
def regionLine (r : FreeRegion) : String :=
  "  free " ++ Text.padStart 10 (r.start.fixed 2) ++ "MiB .. "
    ++ Text.padStart 10 (r.finish.fixed 2) ++ "MiB (" ++ r.length.fixed 2 ++ "MiB)"

/-- The lines that show the unallocated regions. -/
def regionLines (rs : List FreeRegion) : List String :=
  if rs.isEmpty then ["  (no free space)"] else rs.map regionLine

/-- Lines as text, each ended by a line feed. -/
def unlines (lines : List String) : String :=
  String.join (lines.map (· ++ "\n"))

end StorageTopology.CommandLine
