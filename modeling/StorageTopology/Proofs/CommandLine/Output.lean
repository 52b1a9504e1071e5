import StorageTopology.Proofs.CommandLine.Calls
import StorageTopology.Proofs.Discovery.Sources
import StorageTopology.Proofs.Json.RoundTrip
import StorageTopology.Proofs.Text.Utf8

/-!
# What the command prints

Headline result: `faithful_of_invocation`, for all tools, files and invocations. What is printed
depends on the flags among the arguments, and on one question, whether the disk was found
(`Locates`).

* With `--json` a disk that was found is read back from what is printed, and the exit code is 0.
  Unallocated regions have no part in it (`run_json_congr`).
* Without it the table is there in full before the regions are looked at: a line for each partition
  (`Shows`), by ascending ordinals. `Tail` is what comes behind the table, with the exit code: with
  `--free` the regions, unless they fail, which is too late to take back the table.
* Without a disk the exit code is 1 and nothing is printed (`run_of_not_locates`).

`describe_json` and `tabulates_describe` are the two forms of one disk, with no regard to how it was
found. That ordinals ascend is a property of the disk, see `exists_settle_of_locate`.
-/

namespace StorageTopology

/-! ## Disks that are found are settled -/

theorem Parted.exists_settle_of_parse {output : String} {d : Disk} (h : parse output = .ok d) :
    ∃ raw : Disk, raw.settle = .ok d := by
  obtain ⟨t, -, ht⟩ := parse_eq_ok_iff.mp h
  obtain ⟨raw, -, -, hraw⟩ := t.toDisk_eq_settle
  exact ⟨raw, hraw ▸ ht⟩

theorem Lsblk.exists_settle_of_parse {output : String} {d : Disk} (h : parse output = .ok d) :
    ∃ raw : Disk, raw.settle = .ok d := by
  obtain ⟨v, -, hv⟩ := parse_eq_ok_iff.mp h
  rcases v.toDisk_eq with ⟨cause, -, hfail⟩ | ⟨ps, raw, -, -, -, hraw⟩
  · exact absurd (hfail.symm.trans hv) nofun
  · exact ⟨raw, mapError_eq_ok_iff.mp (hraw ▸ hv)⟩

namespace Discovery

theorem exists_settle_of_parseOutput {source : DiscoverySource} {output : String} {d : Disk}
    (h : parseOutput source output = .ok d) : ∃ raw : Disk, raw.settle = .ok d := by
  cases source with
  | parted => exact Parted.exists_settle_of_parse h
  | lsblk => exact Lsblk.exists_settle_of_parse h

theorem exists_settle_of_locate {tools : Toolbox} {s : DiscoverySettings} {path : String}
    {d : Disk} (h : (locate tools s path).result = .ok d) : ∃ raw : Disk, raw.settle = .ok d := by
  unfold locate at h
  split at h
  · exact absurd h nofun
  · rcases hrun : runTool tools s.program (arguments s.source path) (acceptsPartial s.source) with
      ⟨call, cause | output⟩ <;> simp only [hrun] at h
    · exact absurd h nofun
    · exact exists_settle_of_parseOutput h

/-- Every program is there, and prints the same. -/
def printing (output : String) : Toolbox := fun program =>
  some ⟨program, fun _ => ⟨Utf8.encode output, [], 0⟩⟩

/-- What is printed as text is read as that text. -/
theorem locate_printing (output : String) (s : DiscoverySettings) {path : String} (hne : path ≠ "")
    (hnul : '\x00' ∉ path.toList) :
    (locate (printing output) s path).result = parseOutput s.source output := by
  rw [locate_of_found rfl hne hnul, output_of_trusted (.inl rfl), Utf8.lossy_encode]
  rfl

end Discovery

namespace CommandLine

open Discovery Json

/-! ## Lines -/

@[simp] theorem unlines_nil : unlines [] = "" := rfl

@[simp] theorem unlines_cons (line : String) (lines : List String) :
    unlines (line :: lines) = line ++ "\n" ++ unlines lines := by
  simp [unlines, String.join_cons]

/-- Lines without line feeds can be told apart in the text that they make up. -/
theorem splitOn_unlines_append (rest : String) : ∀ lines : List String,
    (∀ line ∈ lines, '\n' ∉ line.toList) →
      (unlines lines ++ rest).toList.splitOn '\n' =
        lines.map String.toList ++ rest.toList.splitOn '\n'
  | [], _ => by simp
  | line :: lines, h => by
    obtain ⟨hline, hlines⟩ := List.forall_mem_cons.mp h
    have htext : (unlines (line :: lines) ++ rest).toList =
        line.toList ++ '\n' :: (unlines lines ++ rest).toList := by
      simp
    rw [htext, List.splitOn_append_cons_self, List.splitOn_eq_singleton hline,
      splitOn_unlines_append rest lines hlines]
    rfl

/-! ## Columns and rows -/

/-- The column holds the text, and then blanks if that is shorter than the column is wide. -/
def FilledEnd (width : Nat) (text column : String) : Prop :=
  ∃ blanks, column.toList = text.toList ++ List.replicate blanks ' ' ∧
    column.length = max width text.length

/-- The column holds blanks if the text is shorter than the column is wide, and then the text. -/
def FilledStart (width : Nat) (text column : String) : Prop :=
  ∃ blanks, column.toList = List.replicate blanks ' ' ++ text.toList ∧
    column.length = max width text.length

theorem filledEnd_padEnd (width : Nat) (text : String) :
    FilledEnd width text (Text.padEnd width text) :=
  ⟨width - text.toList.length, by simp [Text.padEnd, List.rightpad],
    Text.length_padEnd width text⟩

theorem filledStart_padStart (width : Nat) (text : String) :
    FilledStart width text (Text.padStart width text) :=
  ⟨width - text.toList.length, by simp [Text.padStart, List.leftpad],
    Text.length_padStart width text⟩

/-- Blanks behind a text without any end it. -/
theorem FilledEnd.takeWhile_eq {width : Nat} {text column : String}
    (h : FilledEnd width text column) (hblank : ' ' ∉ text.toList) (rest : String) :
    (column ++ " " ++ rest).toList.takeWhile (· ≠ ' ') = text.toList := by
  obtain ⟨blanks, hcolumn, -⟩ := h
  have hrest : (List.replicate blanks ' ' ++ ' ' :: rest.toList).takeWhile (· ≠ ' ') = [] := by
    cases blanks <;> simp [List.replicate_succ]
  have htext : ∀ c ∈ text.toList, decide (c ≠ ' ') = true := fun c hc => by
    simpa using ne_of_mem_of_not_mem hc hblank
  rw [String.append_assoc, String.toList_append, hcolumn, List.append_assoc,
    List.takeWhile_append_of_pos htext]
  simpa using hrest

/-- The line shows the partition in five columns, and its ordinal can be read off. -/
structure Shows (p : Partition) (line : String) : Prop where
  columns : ∃ number path size filesystem,
    FilledEnd 4 p.number.toNat.repr number ∧ FilledEnd 20 (p.path.getD "-") path ∧
      FilledStart 12 p.size size ∧ FilledEnd 12 (p.filesystem.getD "-") filesystem ∧
        line = " ".intercalate [number, path, size, filesystem, ",".intercalate p.mountPoints]
  ordinal : line.toList.takeWhile (· ≠ ' ') = p.number.toNat.repr.toList

theorem shows_partitionRow (p : Partition) : Shows p (partitionRow p) where
  columns := by
    refine ⟨_, _, _, _, filledEnd_padEnd 4 _, filledEnd_padEnd 20 _, filledStart_padStart 12 _,
      filledEnd_padEnd 12 _, ?_⟩
    simp [partitionRow, row, String.intercalate_cons_cons, String.append_assoc]
  ordinal := by
    simp only [partitionRow, row, String.append_assoc]
    rw [← String.append_assoc]
    exact (filledEnd_padEnd 4 _).takeWhile_eq (Decimal.not_mem_repr (by decide) _) _

/-- The lines before those of the partitions. -/
def heading (d : Disk) : List String :=
  [d.path ++ "  " ++ d.size ++ "  " ++ d.label ++ "  " ++ d.transport ++ "  " ++ d.model,
    "", "NUM  PATH                         SIZE FS           MOUNTS"]

theorem diskLines_eq (d : Disk) : diskLines d = heading d ++ d.partitions.map partitionRow := by
  have hnames : row "NUM" "PATH" "SIZE" "FS" "MOUNTS" =
      "NUM  PATH                         SIZE FS           MOUNTS" := by decide
  rw [diskLines, heading, hnames]

/-! ## One disk in either form -/

section Describe

variable {a : Arguments} {d : Disk}

theorem describe_json (d : Disk) (ha : a.json = true) :
    (describe a d).1 = 0 ∧ decode Disk.ofJson? (describe a d).2.1 = some d := by
  refine ⟨?_, decode_describe ha d⟩
  simp [describe, ha]

/-- What comes behind the table, with the exit code; `free` says whether the regions are asked for.
A failure of the regions comes too late to take back what was printed. -/
inductive Tail (free : Prop) (d : Disk) : Nat → String → Prop
  | none (h : ¬free) : Tail free d 0 ""
  | regions (h : free) {rs : List FreeRegion} (hrs : d.freeRegions = .ok rs) :
      Tail free d 0 ("\n" ++ unlines (regionLines rs))
  | failed (h : free) {cause : TopologyError} (hcause : d.freeRegions = .error cause) :
      Tail free d 1 "\n"

theorem Tail.exit_eq_zero_iff {free : Prop} {exit : Nat} {rest : String}
    (h : Tail free d exit rest) : exit = 0 ↔ (free → ∃ rs, d.freeRegions = .ok rs) := by
  cases h with
  | none hfree => exact iff_of_true rfl fun h => absurd h hfree
  | regions hfree hrs => exact iff_of_true rfl fun _ => ⟨_, hrs⟩
  | failed hfree hcause =>
    refine iff_of_false nofun fun h => ?_
    obtain ⟨rs, hrs⟩ := h hfree
    exact absurd (hcause.symm.trans hrs) nofun

theorem Tail.of_error {free : Prop} {exit : Nat} {rest : String} (h : Tail free d exit rest)
    (hfree : free) {cause : TopologyError} (hcause : d.freeRegions = .error cause) :
    exit = 1 ∧ rest = "\n" := by
  cases h with
  | none hplain => exact absurd hfree hplain
  | regions _ hrs => exact absurd (hcause.symm.trans hrs) nofun
  | failed => exact ⟨rfl, rfl⟩

/-- The text is the whole table of the disk, and then `rest`; `rows` are the lines of the
partitions, one for each and in their order. -/
structure Tabulates (free : Prop) (d : Disk) (exit : Nat) (text : String) (rows : List String)
    (rest : String) : Prop where
  printed : text = unlines (heading d ++ rows) ++ rest
  shown : List.Forall₂ Shows d.partitions rows
  tail : Tail free d exit rest
  /-- The lines are found in the text, as long as no text of the disk breaks one. -/
  lines : (∀ line ∈ heading d ++ rows, '\n' ∉ line.toList) →
    text.toList.splitOn '\n' =
      (heading d ++ rows).map String.toList ++ rest.toList.splitOn '\n'

variable {free : Prop} (hfree : a.free ↔ free)
include hfree

theorem exists_tail_describe (d : Disk) (ha : a.json = false) :
    ∃ rest, (describe a d).2.1 = unlines (diskLines d) ++ rest ∧
      Tail free d (describe a d).1 rest := by
  cases hasked : a.free with
  | false =>
    have hdescribe : describe a d = (0, unlines (diskLines d), "") := by
      simp [describe, ha, hasked]
    rw [hdescribe]
    have hplain : ¬free := fun h => Bool.false_ne_true (hasked.symm.trans (hfree.mpr h))
    exact ⟨"", by simp, .none hplain⟩
  | true =>
    cases hregions : d.freeRegions with
    | ok rs =>
      have hdescribe : describe a d =
          (0, unlines (diskLines d) ++ "\n" ++ unlines (regionLines rs), "") := by
        simp [describe, ha, hasked, hregions]
      rw [hdescribe]
      exact ⟨_, by rw [String.append_assoc], .regions (hfree.mp hasked) hregions⟩
    | error cause =>
      have hdescribe : describe a d =
          (1, unlines (diskLines d) ++ "\n", "Error: " ++ cause.message ++ "\n") := by
        simp [describe, ha, hasked, hregions]
      rw [hdescribe]
      exact ⟨_, rfl, .failed (hfree.mp hasked) hregions⟩

theorem tabulates_describe (d : Disk) (ha : a.json = false) :
    ∃ rows rest, Tabulates free d (describe a d).1 (describe a d).2.1 rows rest := by
  obtain ⟨rest, hprinted, htail⟩ := exists_tail_describe hfree d ha
  rw [diskLines_eq] at hprinted
  refine ⟨d.partitions.map partitionRow, rest, hprinted, ?_, htail, fun hlines => ?_⟩
  · exact List.forall₂_map_right_iff.mpr (List.forall₂_same.mpr fun p _ => shows_partitionRow p)
  · rw [hprinted, splitOn_unlines_append rest _ hlines]

end Describe

/-! ## Whether the disk is found -/

section Locates

variable {tools : Toolbox} {files : Files} {arguments : List String} {a : Arguments} {d : Disk}

/-- The settings are accepted, and the disk that the arguments name is found and is `d`. -/
def Locates (tools : Toolbox) (files : Files) (arguments : List String) (a : Arguments)
    (d : Disk) : Prop :=
  ∃ s, Asks files arguments a s ∧ (locate tools s a.disk).result = .ok d

theorem run_of_locates (h : Locates tools files arguments a d) :
    (run tools files arguments).exit = (describe a d).1 ∧
      (run tools files arguments).stdout = (describe a d).2.1 := by
  obtain ⟨s, hasks, hlocate⟩ := h
  rw [run_of_asks tools hasks, outcomeOf, hlocate]
  exact ⟨rfl, rfl⟩

/-- **Without a disk nothing is printed**, whether the settings were refused or the tool failed. -/
theorem run_of_not_locates (hasked : Invocation arguments a)
    (h : ∀ d, ¬Locates tools files arguments a d) :
    (run tools files arguments).exit = 1 ∧ (run tools files arguments).stdout = "" := by
  by_cases hasks : ∃ s, Asks files arguments a s
  · obtain ⟨s, hasks⟩ := hasks
    rw [run_of_asks tools hasks, outcomeOf]
    cases hlocate : (locate tools s a.disk).result with
    | ok d => exact absurd ⟨s, hasks, hlocate⟩ (h d)
    | error cause => exact ⟨rfl, rfl⟩
  · cases hsettings : settings files a with
    | ok s => exact absurd ⟨_, hasked, exists_settings_iff.mp ⟨s, hsettings, rfl⟩⟩ hasks
    | error cause => simp [run, parse_eq_locate_iff.mpr hasked, runLocate, hsettings]

theorem pairwise_lt_ordinals_of_locates (h : Locates tools files arguments a d) :
    d.ordinals.Pairwise (· < ·) := by
  obtain ⟨s, -, hlocate⟩ := h
  obtain ⟨raw, hraw⟩ := exists_settle_of_locate hlocate
  exact (Disk.wellFormed_of_settle hraw).increasing

/-- Whether the regions are asked for as well makes no difference to JSON. -/
theorem run_json_congr (tools : Toolbox) (files : Files) {others : List String} {free : Bool}
    (ha : a.json = true) (hasked : Invocation arguments a)
    (hothers : Invocation others { a with free := free }) :
    run tools files others = run tools files arguments := by
  have hdescribe : describe { a with free := free } = describe a := by
    funext d
    simp [describe, ha]
  have hsettings : settings files { a with free := free } = settings files a := rfl
  simp only [run, parse_eq_locate_iff.mpr hasked, parse_eq_locate_iff.mpr hothers, runLocate,
    hsettings, hdescribe]

end Locates

/-! ## What is printed -/

/-- What the command prints is what was found, in the form that the flags ask for. -/
structure Faithful (tools : Toolbox) (files : Files) (arguments : List String) (a : Arguments) :
    Prop where
  /-- As JSON the disk is read back, be its regions as they may. -/
  json : "--json" ∈ options arguments → ∀ d, Locates tools files arguments a d →
    (run tools files arguments).exit = 0 ∧
      decode Disk.ofJson? (run tools files arguments).stdout = some d
  json_free : "--json" ∈ options arguments →
    ∀ others free, Invocation others { a with free := free } →
      run tools files others = run tools files arguments
  /-- As a table the disk is shown in full, even if the regions then fail. -/
  table : "--json" ∉ options arguments → ∀ d, Locates tools files arguments a d →
    d.ordinals.Pairwise (· < ·) ∧
      ∃ rows rest, Tabulates ("--free" ∈ options arguments) d (run tools files arguments).exit
        (run tools files arguments).stdout rows rest
  table_exit : "--json" ∉ options arguments → ((run tools files arguments).exit = 0 ↔
    ∃ d, Locates tools files arguments a d ∧
      ("--free" ∈ options arguments → ∃ rs, d.freeRegions = .ok rs))
  missing : (∀ d, ¬Locates tools files arguments a d) →
    (run tools files arguments).exit = 1 ∧ (run tools files arguments).stdout = "" ∧
      decode Disk.ofJson? (run tools files arguments).stdout = none

/-- **What is printed is faithful**, for all tools, files and invocations. -/
theorem faithful_of_invocation {arguments : List String} {a : Arguments}
    (hasked : Invocation arguments a) (tools : Toolbox) (files : Files) :
    Faithful tools files arguments a := by
  have hjson : a.json ↔ "--json" ∈ options arguments := hasked.flag_iff .json
  have hfree : a.free ↔ "--free" ∈ options arguments := hasked.flag_iff .free
  have htable (h : "--json" ∉ options arguments) : a.json = false :=
    Bool.eq_false_iff.mpr fun ha => h (hjson.mp ha)
  constructor
  case json =>
    intro h d hd
    rw [(run_of_locates hd).1, (run_of_locates hd).2]
    exact describe_json d (hjson.mpr h)
  case json_free =>
    intro h others free hothers
    exact run_json_congr tools files (hjson.mpr h) hasked hothers
  case table =>
    intro h d hd
    rw [(run_of_locates hd).1, (run_of_locates hd).2]
    exact ⟨pairwise_lt_ordinals_of_locates hd, tabulates_describe hfree d (htable h)⟩
  case table_exit =>
    intro h
    constructor
    · intro hexit
      by_cases hfound : ∃ d, Locates tools files arguments a d
      · obtain ⟨d, hd⟩ := hfound
        obtain ⟨rest, -, htail⟩ := exists_tail_describe hfree d (htable h)
        rw [(run_of_locates hd).1] at hexit
        exact ⟨d, hd, htail.exit_eq_zero_iff.mp hexit⟩
      · have hfailed := (run_of_not_locates hasked fun d hd => hfound ⟨d, hd⟩).1
        exact absurd (hexit.symm.trans hfailed) nofun
    · rintro ⟨d, hd, hregions⟩
      obtain ⟨rest, -, htail⟩ := exists_tail_describe hfree d (htable h)
      rw [(run_of_locates hd).1]
      exact htail.exit_eq_zero_iff.mpr hregions
  case missing =>
    intro h
    obtain ⟨hexit, hstdout⟩ := run_of_not_locates hasked h
    refine ⟨hexit, hstdout, ?_⟩
    rw [hstdout]
    decide

/-- Two partitions, the third before the first, on a disk whose size is not in MiB, so that its
regions fail. With `--json` the disk is read back all the same; without it the table is complete. -/
theorem faithful_of_invocation_failed_regions :
    let output := "\x7b\"disk\":\x7b\"path\":\"/dev/nvme0n1\",\"size\":\"9GiB\",\"partitions\":[" ++
      "\x7b\"number\":3,\"start\":\"5MiB\",\"end\":\"9MiB\",\"size\":\"4MiB\"\x7d," ++
      "\x7b\"number\":1,\"start\":\"1MiB\",\"end\":\"5MiB\",\"size\":\"4MiB\"\x7d]\x7d\x7d"
    let files : Files := fun _ => .error .notFound
    let asJson := ["--json", "--free", "/dev/nvme0n1"]
    let asTable := ["--free", "--source=parted", "--", "/dev/nvme0n1"]
    let j : Arguments := ⟨"/dev/nvme0n1", none, none, true, true⟩
    let t : Arguments := ⟨"/dev/nvme0n1", some .parted, none, false, true⟩
    Invocation asJson j ∧ Invocation asTable t ∧
      ∃ d rows, d.ordinals = [1, 3] ∧ (∀ rs, d.freeRegions ≠ .ok rs) ∧
        Locates (printing output) files asJson j d ∧
        Locates (printing output) files asTable t d ∧
        (run (printing output) files asJson).exit = 0 ∧
        decode Disk.ofJson? (run (printing output) files asJson).stdout = some d ∧
        Tabulates ("--free" ∈ options asTable) d 1 (run (printing output) files asTable).stdout
          rows "\n" := by
  intro output files asJson asTable j t
  have hj : Invocation asJson j := parse_eq_locate_iff.mp (by decide)
  have ht : Invocation asTable t := parse_eq_locate_iff.mp (by decide)
  let table : Parted.Table := ⟨"/dev/nvme0n1", "9GiB", "", "", "", none, none, none,
    [⟨3, "5MiB", "9MiB", "4MiB", "", "", none⟩, ⟨1, "1MiB", "5MiB", "4MiB", "", "", none⟩]⟩
  have htable : Parted.Table.ofOutput? output = some table := by decide +kernel
  obtain ⟨d, hd⟩ : ∃ d, table.toDisk = .ok d :=
    Disk.exists_settle (by decide) (by decide) (by decide)
  have hparse : Parted.parse output = .ok d := Parted.parse_eq_ok_iff.mpr ⟨table, htable, hd⟩
  have hlocate : (locate (printing output) .default "/dev/nvme0n1").result = Parted.parse output :=
    locate_printing output .default (by decide) (by decide)
  have hfoundJson : Locates (printing output) files asJson j d :=
    ⟨.default, ⟨hj, .default, .byDefault, rfl⟩, hlocate.trans hparse⟩
  have hfoundTable : Locates (printing output) files asTable t d :=
    ⟨.default, ⟨ht, .default, .byDefault, rfl⟩, hlocate.trans hparse⟩
  have hsize : d.size = "9GiB" := by
    obtain ⟨-, sep, -, rfl⟩ := Disk.settle_eq_ok_iff.mp hd
    rfl
  have hregions : d.freeRegions = .error (.invalidSize "9GiB") := by
    rw [Disk.freeRegions, hsize]
    rfl
  obtain ⟨hexit, hread⟩ :=
    (faithful_of_invocation hj (printing output) files).json (by decide) d hfoundJson
  obtain ⟨hordinals, rows, rest, hrows⟩ :=
    (faithful_of_invocation ht (printing output) files).table (by decide) d hfoundTable
  have hperm : d.ordinals.Perm [1, 3] := (Disk.ordinals_of_settle hd).trans (List.Perm.swap 1 3 [])
  have hsorted : d.ordinals = [1, 3] := hperm.eq_of_pairwise
    (fun _ _ _ _ hlt hgt => absurd (UInt32.lt_trans hlt hgt) (UInt32.lt_irrefl _))
    hordinals (by decide)
  obtain ⟨hfailed, rfl⟩ := hrows.tail.of_error (by decide) hregions
  refine ⟨hj, ht, d, rows, hsorted, fun rs hrs => ?_, hfoundJson, hfoundTable, hexit, hread,
    hfailed ▸ hrows⟩
  exact absurd (hregions.symm.trans hrs) nofun

end CommandLine

end StorageTopology
