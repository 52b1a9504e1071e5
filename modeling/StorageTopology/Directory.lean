import StorageTopology.Discovery.Tool
import StorageTopology.Settings.Files

/-!
# A working directory

A `Directory` holds files, some of which can be run, and empty directories, and nothing is to be
seen outside of it. `Directory.find` follows a path part by part and fails as the operating system
does. From it come the two things that the command needs: `Directory.read` is how files are read,
and `Directory.toolbox` is how programs are found when the directory is the search path as well.
-/

namespace StorageTopology

open Discovery

/-- A file: its content, and what it does when it is run, if it can be. -/
structure File where
  content : Bytes
  run : Option (List String → ToolRun)

/-- What a name in the directory stands for. -/
inductive DirectoryEntry where
  | file (f : File)
  | directory

/-- The entries of the working directory by name. -/
abbrev Directory := List (String × DirectoryEntry)

/-- Where a path has led so far: to the working directory, into a directory in it, to a file, or
to a directory outside. -/
inductive Place where
  | here
  | below
  | file (name : String) (f : File)
  | outside

/-- A part of a path that stays where it is. -/
def staysHere (part : List Char) : Bool := part = [] || part = ['.']

namespace Directory

/-- The greatest number of bytes in one name. -/
def maxNameLength : Nat := 255

/-- The greatest number of bytes in a path. -/
def maxPathLength : Nat := 4095

/-- Follow one part of a path. -/
def follow (d : Directory) (place : Place) (part : List Char) : Except FileError Place :=
  match place with
  | .file _ _ => .error .notADirectory
  | _ =>
    if staysHere part then .ok place
    else if part = ['.', '.'] then
      .ok (match place with
        | .below => .here
        | _ => .outside)
    else if maxNameLength < (Utf8.encode (String.ofList part)).length then .error .nameTooLong
    else
      match place with
      | .here =>
        match d.find? (·.1 = String.ofList part) with
        | some (name, .file f) => .ok (.file name f)
        | some (_, .directory) => .ok .below
        | none => .error .notFound
      | _ => .error .notFound

/-- Follow the parts of a path from the working directory. -/
def walk (d : Directory) (parts : List (List Char)) : Except FileError Place :=
  parts.foldlM d.follow .here

/-- Where a path leads. -/
def find (d : Directory) (path : String) : Except FileError Place :=
  if '\x00' ∈ path.toList then .error .nulInName
  else if path.isEmpty then .error .notFound
  else if maxPathLength < (Utf8.encode path).length then .error .nameTooLong
  else
    match path.toList.splitOn '/' with
    | [] :: parts => parts.foldlM d.follow .outside
    | parts => d.walk parts

/-- The files of the directory. -/
def read (d : Directory) : Files := fun path =>
  match d.find path with
  | .error e => .error e
  | .ok (.file _ f) => .ok f.content
  | .ok _ => .error .isADirectory

/-- Where the program of a name is looked for. The parts of a name that stay where they are do
not count, but for a first one. A name of several parts is a path, in which the others are left
out; a name of one part is searched for as it is written. -/
def locateProgram (d : Directory) (program : String) : Except FileError Place :=
  let parts := program.toList.splitOn '/'
  let steps := parts.filter (!staysHere ·)
  let first := if parts.head? = some ['.'] then 1 else 0
  if 1 < first + steps.length ∧ parts.head? ≠ some [] then d.walk steps else d.find program

/-- The programs of the directory: the files that can be run. -/
def toolbox (d : Directory) : Toolbox := fun program =>
  match d.locateProgram program with
  | .ok (.file name f) => f.run.map (⟨name, ·⟩)
  | _ => none

end Directory

end StorageTopology
