import StorageTopology.Settings.Basic

/-!
# Arguments of the command line

The command `volbridge-locate` takes the path of one disk and four options (`Args`), each at most
once and in any order: the tool to use, a settings file, output as JSON, and the unallocated
regions. The value of an option follows it after an equals sign or as the next argument; as the
next argument it does not start with a hyphen, unless it is just a hyphen. After `--` nothing is
an option.
-/

namespace StorageTopology.CommandLine

/-- What the command is asked to do. -/
structure Arguments where
  disk : String
  source : Option DiscoverySource
  config : Option String
  json : Bool
  free : Bool
  deriving DecidableEq, Repr

/-- The arguments so far. -/
structure Collected where
  disk : Option String
  source : Option DiscoverySource
  config : Option String
  json : Bool
  free : Bool
  deriving DecidableEq, Repr

/-- What arguments mean: they cannot be understood, they ask for help, or they ask for a disk. -/
inductive Parsed where
  | misused
  | help
  | locate (arguments : Arguments)
  deriving DecidableEq, Repr

/-- An option with a value. -/
inductive Valued where
  | source
  | config
  deriving DecidableEq, Repr

/-- An argument that is not a value: a flag, an option whose value is still to come or stands
after an equals sign, the mark that ends the options, or a disk. -/
inductive Word where
  | json
  | free
  | help
  | awaiting (option : Valued)
  | given (option : Valued) (value : String)
  | endOfOptions
  | disk (path : String)
  | unknown
  deriving DecidableEq, Repr

/-- The value after an option and an equals sign. -/
def valueOf? (option argument : String) : Option String :=
  let start := option.toList ++ ['=']
  if start.isPrefixOf argument.toList then
    some (String.ofList (argument.toList.drop start.length))
  else none

/-- What an argument is on its own. -/
def Word.ofArgument (a : String) : Word :=
  if a = "--" then .endOfOptions
  else if a = "--json" then .json
  else if a = "--free" then .free
  else if a = "--help" ∨ a = "-h" then .help
  else if a = "--source" then .awaiting .source
  else if a = "--config" then .awaiting .config
  else
    match valueOf? "--source" a, valueOf? "--config" a with
    | some v, _ => .given .source v
    | _, some v => .given .config v
    | none, none =>
      if a = "-" ∨ a.toList.head? ≠ some '-' then .disk a else .unknown

namespace Collected

/-- Nothing yet. -/
def empty : Collected := ⟨none, none, none, false, false⟩

/-- Add an option with its value. -/
def setValue (p : Collected) (option : Valued) (value : String) : Option Collected :=
  match option with
  | .source => do
    let source ← Named.ofName? value
    if p.source.isSome then none else some { p with source := some source }
  | .config =>
    if p.config.isSome ∨ value.isEmpty then none else some { p with config := some value }

/-- Add the disk. -/
def setDisk (p : Collected) (path : String) : Option Collected :=
  if p.disk.isSome then none else some { p with disk := some path }

/-- The arguments, if there is a disk. -/
def finish (p : Collected) : Parsed :=
  match p.disk with
  | some disk => .locate ⟨disk, p.source, p.config, p.json, p.free⟩
  | none => .misused

end Collected

/-- Read arguments after the end of the options. -/
def readDisks (p : Collected) : List String → Parsed
  | [] => p.finish
  | a :: rest =>
    match p.setDisk a with
    | some p => readDisks p rest
    | none => .misused

/-- Whether an argument can be the value of the option before it. -/
def isValue (a : String) : Bool := a = "-" || a.toList.head? ≠ some '-'

/-- Read arguments. -/
def read (p : Collected) : List String → Parsed
  | [] => p.finish
  | a :: rest =>
    match Word.ofArgument a with
    | .json => if p.json then .misused else read { p with json := true } rest
    | .free => if p.free then .misused else read { p with free := true } rest
    | .help => .help
    | .awaiting option =>
      match rest with
      | v :: rest =>
        match if isValue v then p.setValue option v else none with
        | some p => read p rest
        | none => .misused
      | [] => .misused
    | .given option v =>
      match p.setValue option v with
      | some p => read p rest
      | none => .misused
    | .endOfOptions => readDisks p rest
    | .disk path =>
      match p.setDisk path with
      | some p => read p rest
      | none => .misused
    | .unknown => .misused

/-- What arguments mean. -/
def parse (arguments : List String) : Parsed := read .empty arguments

end StorageTopology.CommandLine
