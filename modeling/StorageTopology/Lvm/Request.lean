import StorageTopology.Failure
import StorageTopology.Lvm.Report

/-!
# Requests to the volume engine

The engine splits a command line at blanks itself, so a command line is words with single spaces
between them, and every argument must be one word: not empty, without blanks and without quotes
(`check_arg`, `check_args`, `filter_args`). `Request.words` checks the arguments of a
request in order and gives the words of its command line. Reports (`report_command`) are asked for
without headings, in bytes, without unit, with a comma between columns; one without a filter ends
after its columns.
-/

namespace StorageTopology.Lvm

/-- What a session can be asked to do. Sizes are in bytes; a physical volume without a new size
gets the size of its device. -/
inductive Request where
  | run (command : String)
  | pvcreate (device : String)
  | pvs (filter : List String)
  | pvresize (device : String) (size : Option UInt64)
  | pvremove (device : String)
  | vgcreate (vg : String) (devices : List String)
  | vgs (filter : List String)
  | vgrename (old new : String)
  | vgextend (vg : String) (devices : List String)
  | vgreduce (vg : String) (devices : List String)
  | vgremove (vg : String)
  | lvcreate (name vg : String) (type : SegmentType) (size : UInt64)
  | lvThinCreate (name vg pool : String) (size : UInt64)
  | lvconvertThinPool (vg metadata pool : String)
  | lvs (filter : List String)
  | lvrename (vg old new : String)
  | lvremove (vg lv : String)
  deriving DecidableEq, Repr

/-- One word: it is not empty and has neither blanks nor quotes. -/
def isWord (value : String) : Bool :=
  !value.isEmpty && !value.toList.any fun c => Text.isBlank c || c = '"' || c = '\''

/-- An argument that must be one word. -/
def word (what value : String) : Except ArgumentError String :=
  if isWord value then .ok value else .error (.notAWord what value)

/-- Arguments each of which must be one word. -/
def allWords (what : String) (values : List String) : Except ArgumentError (List String) :=
  values.mapM (word what)

/-- At least one argument, each of which must be one word. -/
def someWords (what : String) (values : List String) : Except ArgumentError (List String) :=
  if values.isEmpty then .error (.noneGiven what) else allWords what values

/-- A size as an argument. -/
def sizeWord (size : UInt64) : String := size.toNat.repr ++ "b"

/-- A logical volume as an argument. -/
def volumeWord (vg lv : String) : String := vg ++ "/" ++ lv

/-- The words that ask for a report. -/
def reportWords (tool columns : String) (filter : List String) : List String :=
  [tool, "--noheadings", "--units", "b", "--nosuffix", "--separator", ",", "-o", columns] ++ filter

/-- Words with single spaces between them. -/
def commandLine (words : List String) : String := " ".intercalate words

namespace Request

/-- The words of a checked request; a command line that is given as such stays whole. -/
def words : Request → Except ArgumentError (List String)
  | .run command => .ok [command]
  | .pvcreate device => do
    let device ← word "pv" device
    .ok ["pvcreate", "-y", device]
  | .pvs filter => do
    let filter ← allWords "filter" filter
    .ok (reportWords "pvs" PhysicalVolume.columns filter)
  | .pvresize device size => do
    let device ← word "pv" device
    match size with
    | some n => .ok ["pvresize", "-y", "--setphysicalvolumesize", sizeWord n, device]
    | none => .ok ["pvresize", "-y", device]
  | .pvremove device => do
    let device ← word "pv" device
    .ok ["pvremove", "-y", device]
  | .vgcreate vg devices => do
    let vg ← word "vg" vg
    let devices ← someWords "PVs" devices
    .ok (["vgcreate", vg] ++ devices)
  | .vgs filter => do
    let filter ← allWords "filter" filter
    .ok (reportWords "vgs" VolumeGroup.columns filter)
  | .vgrename old new => do
    let old ← word "vg" old
    let new ← word "vg" new
    .ok ["vgrename", old, new]
  | .vgextend vg devices => do
    let vg ← word "vg" vg
    let devices ← someWords "PVs" devices
    .ok (["vgextend", vg] ++ devices)
  | .vgreduce vg devices => do
    let vg ← word "vg" vg
    let devices ← someWords "PVs" devices
    .ok (["vgreduce", vg] ++ devices)
  | .vgremove vg => do
    let vg ← word "vg" vg
    .ok ["vgremove", "-y", vg]
  | .lvcreate name vg type size => do
    let name ← word "lv" name
    let vg ← word "vg" vg
    .ok ["lvcreate", "-y", "--type", Named.name type, "-L", sizeWord size, vg, "-n", name]
  | .lvThinCreate name vg pool size => do
    let name ← word "lv" name
    let vg ← word "vg" vg
    let pool ← word "pool" pool
    .ok ["lvcreate", "-y", "-n", name, "-V", sizeWord size, "--thinpool", pool, vg]
  | .lvconvertThinPool vg metadata pool => do
    let vg ← word "vg" vg
    let metadata ← word "lv" metadata
    let pool ← word "pool" pool
    .ok ["lvconvert", "-y", "--type", "thin-pool", "--poolmetadata", volumeWord vg metadata,
      volumeWord vg pool]
  | .lvs filter => do
    let filter ← allWords "filter" filter
    .ok (reportWords "lvs" LogicalVolume.columns filter)
  | .lvrename vg old new => do
    let vg ← word "vg" vg
    let old ← word "lv" old
    let new ← word "lv" new
    .ok ["lvrename", vg, old, new]
  | .lvremove vg lv => do
    let vg ← word "vg" vg
    let lv ← word "lv" lv
    .ok ["lvremove", "-y", volumeWord vg lv]

/-- The command line of a request whose arguments are acceptable. -/
def line (r : Request) : Except Failure String :=
  match r.words with
  | .ok ws => .ok (commandLine ws)
  | .error cause => .error (.argument cause)

end Request

/-- The answer to a request: the captured text of a command line that was given as such, the
records of a report, or nothing. A renamed group or volume is answered by its new record. -/
inductive Reply where
  | done
  | text (output : String)
  | physicalVolumes (volumes : List PhysicalVolume)
  | volumeGroups (groups : List VolumeGroup)
  | logicalVolumes (volumes : List LogicalVolume)
  deriving DecidableEq, Repr

end StorageTopology.Lvm
