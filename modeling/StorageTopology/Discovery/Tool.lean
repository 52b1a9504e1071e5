import StorageTopology.Failure
import StorageTopology.Text.Blank
import StorageTopology.Text.Utf8

/-!
# Running tools

A toolbox finds the executable that a program name means.

`runTool` is `run_tool`. A tool that exits with a code other than zero has failed, but some tools
exit so and still print what they know; for them a failure with output that is not blank is
accepted. Outputs are read as text, with U+FFFD for what is not UTF-8.
-/

namespace StorageTopology.Discovery

/-- What one run of a program gives. -/
structure ToolRun where
  stdout : Bytes
  stderr : Bytes
  exit : Nat
  deriving Repr

/-- An executable: the name of its file, and what it does with given arguments. -/
structure Executable where
  fileName : String
  run : List String → ToolRun

/-- The executable that a program name means. -/
abbrev Toolbox := String → Option Executable

/-- A run that took place: the file name of the program, and its arguments. -/
structure Call where
  program : String
  arguments : List String
  deriving DecidableEq, Repr

/-- A text that can be handed to a program. -/
def isArgument (s : String) : Bool := '\x00' ∉ s.toList

/-- The output of a run. -/
def ToolRun.output (run : ToolRun) (program : String) (acceptsPartial : Bool) :
    Except Failure String :=
  let text := Utf8.lossy run.stdout
  if run.exit = 0 ∨ (acceptsPartial ∧ !Text.isAllBlank text) then .ok text
  else .error (.operation (.toolFailed program (Utf8.lossy run.stderr)))

/-- Run `program`: the run that took place, if one did, and its output. -/
def runTool (tools : Toolbox) (program : String) (arguments : List String)
    (acceptsPartial : Bool) : Option Call × Except Failure String :=
  match tools program with
  | none => (none, .error (.toolNotFound program))
  | some file =>
    if arguments.all isArgument then
      (some ⟨file.fileName, arguments⟩, (file.run arguments).output program acceptsPartial)
    else (none, .error .io)

end StorageTopology.Discovery
