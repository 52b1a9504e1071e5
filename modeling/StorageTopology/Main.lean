import StorageTopology.CommandLine.Run

/-!
# The command

The arguments are those of the command line, and the settings file is read from disk. Programs
are not started from here: what the tool printed is taken from standard input, as in
`parted -sj /dev/sda unit MiB print | locate /dev/sda`.
-/

namespace StorageTopology.CommandLine

open Discovery

/-- The settings file that arguments name. -/
def settingsPath (arguments : List String) : Option String :=
  match parse arguments with
  | .locate a => a.config
  | _ => none

/-- What an error of the operating system means for a file. -/
def fileError : IO.Error → FileError
  | .noFileOrDirectory .. => .notFound
  | .inappropriateType .. => .isADirectory
  | e => .other (toString e)

/-- The content of a file on disk. -/
def readFile (path : String) : IO (Except FileError Bytes) := do
  try
    let content ← IO.FS.readBinFile path
    return .ok content.toList
  catch e => return .error (fileError e)

/-- Files of which only the one at `path` has been read. -/
def filesWith (path : Option String) (content : Except FileError Bytes) : Files := fun p =>
  if some p = path then content else .error .notFound

end StorageTopology.CommandLine

open StorageTopology StorageTopology.CommandLine in
/-- Describe the disk that the command line names. -/
def main (arguments : List String) : IO UInt32 := do
  let path := settingsPath arguments
  let content ← match path with
    | some p => readFile p
    | none => pure (.error .notFound)
  let stdin ← IO.getStdin
  let printed ← match parse arguments with
    | .locate _ => stdin.readToEnd
    | _ => pure ""
  let tools : Discovery.Toolbox := fun program =>
    some ⟨program, fun _ => ⟨Utf8.encode printed, [], 0⟩⟩
  let outcome := run tools (filesWith path content) arguments
  IO.print outcome.stdout
  IO.eprint outcome.stderr
  return outcome.exit.toUInt32
