import StorageTopology.CommandLine.Arguments
import StorageTopology.CommandLine.Table
import StorageTopology.Discovery.Locate
import StorageTopology.Disk.Json
import StorageTopology.Json.Write
import StorageTopology.Settings.Toml

/-!
# The command that describes a disk

`run` is the whole command `volbridge-locate` on given tools and files: its exit code, what it
prints, what it reports as an error, and the run of a tool that took place. Settings come from the
settings file or are the defaults; the option for the tool goes before both. An error is reported
with what was being done, and then with its causes, each indented and, if there are several,
numbered. With unallocated regions asked for, the table is printed before they are computed.
-/

namespace StorageTopology.CommandLine

open Discovery

/-- What the command did. -/
structure Outcome where
  exit : Nat
  stdout : String
  stderr : String
  call : Option Call
  deriving Repr

/-- What the command is told when it is not understood, and when it asks. -/
def usage : String :=
  "Usage: locate [--source parted|lsblk] [--config FILE] [--json] [--free] DISK\n"

/-- `text` with `first` before its first line and `next` before every other. -/
def indent (first next : String) (text : String) : String :=
  first ++ ("\n" ++ next).intercalate ((text.toList.splitOn '\n').map String.ofList)

/-- The causes of an error, one after another. -/
def causeLines : List String → List String
  | [cause] => [indent "    " "    " cause]
  | causes =>
    causes.zipIdx.map fun c => indent (Text.padStart 5 c.2.repr ++ ": ") "       " c.1

/-- The report of an error that came up while something was being done. -/
def errorReport (doing : String) (causes : List String) : String :=
  unlines (["Error: " ++ doing, "", "Caused by:"] ++ causeLines causes)

/-- The messages of an error and of what lies behind it. -/
def settingsCauses : SettingsError → List String
  | .io path cause => [(SettingsError.io path cause).message, cause.message]
  | e => [e.message]

/-- The settings: those of the file, or the defaults, and the tool that was asked for. -/
def settings (files : Files) (a : Arguments) : Except SettingsError Settings := do
  let s ← match a.config with
    | some path => Settings.load files path
    | none => .ok .default
  .ok (match a.source with
    | some source => { s with discovery := { s.discovery with source := source } }
    | none => s)

/-- Show a disk: the exit code, what is printed, and what is reported. -/
def describe (a : Arguments) (d : Disk) : Nat × String × String :=
  if a.json then (0, d.toJson.pretty ++ "\n", "")
  else
    let table := unlines (diskLines d)
    if a.free then
      match d.freeRegions with
      | .ok regions => (0, table ++ "\n" ++ unlines (regionLines regions), "")
      | .error cause => (1, table ++ "\n", "Error: " ++ cause.message ++ "\n")
    else (0, table, "")

/-- Describe the disk that the arguments name. -/
def runLocate (tools : Toolbox) (files : Files) (a : Arguments) : Outcome :=
  match settings files a with
  | .error cause =>
    let doing := "loading configuration " ++ a.config.getD ""
    ⟨1, "", errorReport doing (settingsCauses cause), none⟩
  | .ok s =>
    let located := locate tools s.discovery a.disk
    match located.result with
    | .error cause => ⟨1, "", errorReport ("locating " ++ a.disk) [cause.message], located.call⟩
    | .ok d =>
      let (exit, stdout, stderr) := describe a d
      ⟨exit, stdout, stderr, located.call⟩

/-- The whole command. -/
def run (tools : Toolbox) (files : Files) (arguments : List String) : Outcome :=
  match parse arguments with
  | .misused => ⟨2, "", usage, none⟩
  | .help => ⟨0, usage, "", none⟩
  | .locate a => runLocate tools files a

end StorageTopology.CommandLine
