import StorageTopology.CommandLine.Run
import StorageTopology.Proofs.CommandLine.Invocation
import StorageTopology.Proofs.Settings.Accepted

/-!
# What the command starts

Headline result: `startsOnlyTheTool`, for all tools, files and arguments.

* A program is started exactly if the arguments are an invocation (`Invocation`) for a disk that can
  be handed over, the settings are accepted (`Settings.Accepted`), and the program of the tool in
  use is found (`starts_iff`). Nothing else is started, and no other program has a part in the
  outcome (`same_outcome`).
* The disk is what the tool's reader makes of the output if the run succeeded, or if it was
  `parted` that failed and it printed something (`accepted`); else the run has failed (`rejected`).

The decisions are stated apart from the functions that take them: `parse_eq_locate_iff` for the
arguments, `Settings.load_eq_ok_iff` for the settings, `Orders` for the program and its arguments,
`locate_call_eq_some_iff` for the run.
-/

namespace StorageTopology

/-! ## The run of a tool -/

namespace Discovery

/-- The program that is looked up to describe the disk at `path`, and the arguments it is given. -/
inductive Orders (d : DiscoverySettings) (path : String) : String → List String → Prop where
  | parted (source : d.source = .parted) :
      Orders d path d.parted ["-sj", path, "unit", "MiB", "print"]
  | lsblk (source : d.source = .lsblk) : Orders d path d.lsblk ["-J", "-o", lsblkColumns, path]

theorem orders_iff {d : DiscoverySettings} {path program : String} {argv : List String} :
    Orders d path program argv ↔ program = d.program ∧ argv = arguments d.source path := by
  constructor
  · rintro (h | h) <;> simp [DiscoverySettings.program, arguments, h]
  · rintro ⟨rfl, rfl⟩
    cases h : d.source
    · simpa [DiscoverySettings.program, arguments, h] using (.parted h : Orders d path _ _)
    · simpa [DiscoverySettings.program, arguments, h] using (.lsblk h : Orders d path _ _)

/-- Every argument but the disk is a fixed one. -/
theorem all_isArgument_arguments (source : DiscoverySource) (path : String) :
    (arguments source path).all isArgument = isArgument path := by
  cases source <;> simp [arguments, isArgument, lsblkColumns]

/-- A run that takes place. -/
theorem locate_of_found {tools : Toolbox} {d : DiscoverySettings} {path : String}
    {file : Executable} (hfile : tools d.program = some file) (hne : path ≠ "")
    (hnul : '\x00' ∉ path.toList) :
    locate tools d path =
      ⟨some ⟨file.fileName, arguments d.source path⟩,
        ((file.run (arguments d.source path)).output d.program (acceptsPartial d.source)).bind
          (parseOutput d.source)⟩ := by
  have hpath : path.isEmpty = false := by simpa using hne
  have hall : (arguments d.source path).all isArgument = true := by
    rw [all_isArgument_arguments]
    simpa [isArgument] using hnul
  simp only [locate, hpath, runTool, hfile, hall, if_pos, Bool.false_eq_true, if_false]

/-- **A run takes place** exactly if the disk can be handed over and the program is found. -/
theorem locate_call_eq_some_iff {tools : Toolbox} {d : DiscoverySettings} {path : String}
    {call : Call} :
    (locate tools d path).call = some call ↔
      ∃ program argv file, Orders d path program argv ∧ path ≠ "" ∧ '\x00' ∉ path.toList ∧
        tools program = some file ∧ call = ⟨file.fileName, argv⟩ := by
  simp only [orders_iff, and_assoc, exists_and_left, exists_eq_left]
  by_cases hne : path = ""
  · simp [locate, hne]
  · cases hfile : tools d.program with
    | none => simp [locate, runTool, hne, hfile]
    | some file =>
      by_cases hnul : '\x00' ∈ path.toList
      · have hall : (arguments d.source path).all isArgument = false := by
          rw [all_isArgument_arguments]
          simpa [isArgument] using hnul
        simp [locate, runTool, hne, hfile, hall, hnul]
      · simp [locate_of_found hfile hne hnul, hne, hnul, eq_comm]

/-- Only the program of the tool in use, and only what it does when it is run, count. -/
theorem locate_congr {tools others : Toolbox} {d : DiscoverySettings} {path : String}
    (h : (others d.program).map (fun file => (file.fileName, file.run (arguments d.source path))) =
      (tools d.program).map fun file => (file.fileName, file.run (arguments d.source path))) :
    locate others d path = locate tools d path := by
  have hrun : runTool others d.program (arguments d.source path) (acceptsPartial d.source) =
      runTool tools d.program (arguments d.source path) (acceptsPartial d.source) := by
    unfold runTool
    cases hothers : others d.program <;> cases htools : tools d.program <;>
      simp only [hothers, htools, Option.map_none, Option.map_some, reduceCtorEq,
        Option.some.injEq, Prod.mk.injEq] at h ⊢
    rw [h.1, h.2]
  simp only [locate, hrun]

/-- A run whose output is read: it succeeded, or it was `parted` that failed, with something
printed. -/
def Trusted (source : DiscoverySource) (run : ToolRun) : Prop :=
  run.exit = 0 ∨ source = .parted ∧ ∃ c ∈ (Utf8.lossy run.stdout).toList, Text.isBlank c = false

theorem trusted_iff {source : DiscoverySource} {run : ToolRun} :
    Trusted source run ↔
      run.exit = 0 ∨ (acceptsPartial source ∧ !Text.isAllBlank (Utf8.lossy run.stdout)) := by
  cases source <;> simp [Trusted, acceptsPartial, Text.isAllBlank]

theorem output_of_trusted {source : DiscoverySource} {run : ToolRun} {program : String}
    (h : Trusted source run) :
    run.output program (acceptsPartial source) = .ok (Utf8.lossy run.stdout) :=
  if_pos (trusted_iff.mp h)

theorem output_of_not_trusted {source : DiscoverySource} {run : ToolRun} {program : String}
    (h : ¬Trusted source run) :
    run.output program (acceptsPartial source) =
      .error (.operation (.toolFailed program (Utf8.lossy run.stderr))) :=
  if_neg fun htrusted => h (trusted_iff.mpr htrusted)

end Discovery

/-! ## The whole command -/

namespace CommandLine

open Discovery

/-- The arguments ask for `a`, the settings are accepted, and `d` says which tool is used: the
option for the tool goes before the settings. -/
def Asks (files : Files) (arguments : List String) (a : Arguments) (d : DiscoverySettings) : Prop :=
  Invocation arguments a ∧
    ∃ s, Settings.Accepted files a.config s ∧
      d = { s.discovery with source := a.source.getD s.discovery.source }

/-- The option for the tool changes nothing else, and is looked at last. -/
theorem settings_eq_map (files : Files) (a : Arguments) :
    settings files a =
      (match a.config with
        | some path => Settings.load files path
        | none => .ok .default).map fun s : Settings =>
          { s with
            discovery := { s.discovery with source := a.source.getD s.discovery.source } } := by
  unfold settings
  cases a.config with
  | none => cases a.source <;> rfl
  | some path => cases Settings.load files path <;> cases a.source <;> rfl

theorem exists_settings_iff {files : Files} {a : Arguments} {d : DiscoverySettings} :
    (∃ s, settings files a = .ok s ∧ d = s.discovery) ↔
      ∃ s, Settings.Accepted files a.config s ∧
        d = { s.discovery with source := a.source.getD s.discovery.source } := by
  have hbase (s : Settings) :
      (match a.config with
        | some path => Settings.load files path
        | none => .ok .default) = Except.ok s ↔ Settings.Accepted files a.config s := by
    cases a.config with
    | none => exact ⟨fun h => Except.ok.inj h ▸ .byDefault, fun h => by cases h; rfl⟩
    | some path => exact Settings.load_eq_ok_iff
  simp only [settings_eq_map, ← hbase]
  cases (match a.config with
    | some path => Settings.load files path
    | none => .ok .default : Except SettingsError Settings) <;> simp [Except.map]

/-- What the command shows of a disk that was looked for. -/
def outcomeOf (a : Arguments) (located : Located) : Outcome :=
  match located.result with
  | .error cause =>
    ⟨1, "", errorReport ("locating " ++ a.disk) [cause.message], located.call⟩
  | .ok d => ⟨(describe a d).1, (describe a d).2.1, (describe a d).2.2, located.call⟩

@[simp] theorem outcomeOf_call (a : Arguments) (located : Located) :
    (outcomeOf a located).call = located.call := by
  unfold outcomeOf
  split <;> rfl

theorem run_of_asks {files : Files} {arguments : List String} {a : Arguments}
    {d : DiscoverySettings} (tools : Toolbox) (h : Asks files arguments a d) :
    run tools files arguments = outcomeOf a (locate tools d a.disk) := by
  obtain ⟨s, hs, rfl⟩ := exists_settings_iff.mpr h.2
  have hlocate : runLocate tools files a = outcomeOf a (locate tools s.discovery a.disk) := by
    unfold runLocate
    rw [hs]
    rfl
  unfold run
  rw [parse_eq_locate_iff.mpr h.1]
  exact hlocate

/-- Without a disk to look for, nothing is looked at. -/
theorem run_of_not_asks {files : Files} {arguments : List String} (tools others : Toolbox)
    (h : ∀ a d, ¬Asks files arguments a d) :
    (run tools files arguments).call = none ∧
      run others files arguments = run tools files arguments := by
  unfold run
  cases hparsed : parse arguments with
  | misused => exact ⟨rfl, rfl⟩
  | help => exact ⟨rfl, rfl⟩
  | locate a =>
    cases hsettings : settings files a with
    | error cause => simp [runLocate, hsettings]
    | ok s =>
      have hasks : Asks files arguments a s.discovery :=
        ⟨parse_eq_locate_iff.mp hparsed, exists_settings_iff.mp ⟨s, hsettings, rfl⟩⟩
      exact absurd hasks (h a s.discovery)

/-- The command starts the tool that it was asked to use, and nothing else; what it says of the
disk is what the tool said. -/
structure StartsOnlyTheTool (tools : Toolbox) (files : Files) (arguments : List String) :
    Prop where
  /-- Whether a program is started, which one, and with which arguments. -/
  starts_iff : ∀ call, (run tools files arguments).call = some call ↔
    ∃ a d program argv file, Asks files arguments a d ∧ Orders d a.disk program argv ∧
      a.disk ≠ "" ∧ '\x00' ∉ a.disk.toList ∧ tools program = some file ∧
      call = ⟨file.fileName, argv⟩
  /-- Other tools, of which the one in use does the same in this run, give the same outcome. -/
  same_outcome : ∀ others : Toolbox,
    (∀ a d program argv, Asks files arguments a d → Orders d a.disk program argv →
      (others program).map (fun file => (file.fileName, file.run argv)) =
        (tools program).map fun file => (file.fileName, file.run argv)) →
    run others files arguments = run tools files arguments
  /-- The outcome shows the disk that was looked for. -/
  outcome : ∀ a d, Asks files arguments a d →
    run tools files arguments = outcomeOf a (locate tools d a.disk)
  /-- The output of a run that is trusted is read by the reader of the tool. -/
  accepted : ∀ a d program argv file, Asks files arguments a d → Orders d a.disk program argv →
    a.disk ≠ "" → '\x00' ∉ a.disk.toList → tools program = some file →
    Trusted d.source (file.run argv) →
    (locate tools d a.disk).result =
      match d.source with
      | .parted => Parted.parse (Utf8.lossy (file.run argv).stdout)
      | .lsblk => Lsblk.parse (Utf8.lossy (file.run argv).stdout)
  /-- Any other run has failed, for the reason that it printed. -/
  rejected : ∀ a d program argv file, Asks files arguments a d → Orders d a.disk program argv →
    a.disk ≠ "" → '\x00' ∉ a.disk.toList → tools program = some file →
    ¬Trusted d.source (file.run argv) →
    (locate tools d a.disk).result =
      .error (.operation (.toolFailed program (Utf8.lossy (file.run argv).stderr)))

/-- **The command starts only the tool in use, and only if all is well.** -/
theorem startsOnlyTheTool (tools : Toolbox) (files : Files) (arguments : List String) :
    StartsOnlyTheTool tools files arguments where
  starts_iff call := by
    constructor
    · intro hcall
      by_cases hasks : ∃ a d, Asks files arguments a d
      · obtain ⟨a, d, hasks⟩ := hasks
        rw [run_of_asks tools hasks, outcomeOf_call, locate_call_eq_some_iff] at hcall
        obtain ⟨program, argv, file, hrun⟩ := hcall
        exact ⟨a, d, program, argv, file, hasks, hrun⟩
      · have hnone := (run_of_not_asks tools tools fun a d h => hasks ⟨a, d, h⟩).1
        rw [hnone] at hcall
        cases hcall
    · rintro ⟨a, d, program, argv, file, hasks, hrun⟩
      rw [run_of_asks tools hasks, outcomeOf_call, locate_call_eq_some_iff]
      exact ⟨program, argv, file, hrun⟩
  same_outcome others hsame := by
    by_cases hasks : ∃ a d, Asks files arguments a d
    · obtain ⟨a, d, hasks⟩ := hasks
      have hlocate : locate others d a.disk = locate tools d a.disk :=
        locate_congr (hsame a d _ _ hasks (orders_iff.mpr ⟨rfl, rfl⟩))
      rw [run_of_asks others hasks, run_of_asks tools hasks, hlocate]
    · exact (run_of_not_asks tools others fun a d h => hasks ⟨a, d, h⟩).2
  outcome a d := run_of_asks tools
  accepted a d program argv file _ horders hne hnul hfile htrusted := by
    obtain ⟨rfl, rfl⟩ := orders_iff.mp horders
    rw [locate_of_found hfile hne hnul, output_of_trusted htrusted]
    cases d.source <;> rfl
  rejected a d program argv file _ horders hne hnul hfile htrusted := by
    obtain ⟨rfl, rfl⟩ := orders_iff.mp horders
    rw [locate_of_found hfile hne hnul, output_of_not_trusted htrusted]
    rfl

/-- The option asks for `lsblk`, the settings file for `parted` and for another program as `lsblk`.
The program of the file is started for the tool of the option, and as it fails there is no disk,
although every program prints something. -/
theorem startsOnlyTheTool_lsblk :
    let text := "[discovery]\nsource = \"parted\"\nlsblk = \"/usr/bin/lsblk\"\n"
    let files : Files := fun _ => .ok (Utf8.encode text)
    let tools : Toolbox := fun program => some ⟨program, fun _ => ⟨[0x7b], [0x6e, 0x6f], 1⟩⟩
    let arguments := ["--source", "lsblk", "--config=locate.toml", "/dev/sda"]
    let a : Arguments := ⟨"/dev/sda", some .lsblk, some "locate.toml", false, false⟩
    let d : DiscoverySettings := ⟨.lsblk, "parted", "/usr/bin/lsblk"⟩
    Asks files arguments a d ∧
      (run tools files arguments).call =
        some ⟨"/usr/bin/lsblk", ["-J", "-o", lsblkColumns, "/dev/sda"]⟩ ∧
      (locate tools d a.disk).result = .error (.operation (.toolFailed "/usr/bin/lsblk" "no")) := by
  intro text files tools arguments a d
  have hstarts := startsOnlyTheTool tools files arguments
  let s : Settings := ⟨⟨4⟩, ⟨.parted, "parted", "/usr/bin/lsblk"⟩⟩
  have haccepted : Settings.Accepted files a.config s := by
    have hsome : (Settings.load files "locate.toml").toOption = some s := by decide +kernel
    refine Settings.load_eq_ok_iff.mp ?_
    cases hload : Settings.load files "locate.toml" with
    | error cause => simp [hload, Except.toOption] at hsome
    | ok given => exact congrArg Except.ok (by simpa [hload, Except.toOption] using hsome)
  have hasks : Asks files arguments a d := ⟨parse_eq_locate_iff.mp (by decide), _, haccepted, rfl⟩
  refine ⟨hasks, (hstarts.starts_iff _).mpr ?_, ?_⟩
  · exact ⟨a, d, _, _, _, hasks, .lsblk rfl, by decide, by decide, rfl, rfl⟩
  · have hfailed : ¬Trusted d.source ⟨[0x7b], [0x6e, 0x6f], 1⟩ := by
      rintro (h | ⟨h, -⟩)
      · exact absurd h (by decide)
      · cases h
    have hreason : Utf8.lossy [0x6e, 0x6f] = "no" := by decide +kernel
    rw [hstarts.rejected a d _ _ _ hasks (.lsblk rfl) (by decide) (by decide) rfl hfailed, hreason]

end CommandLine

end StorageTopology
