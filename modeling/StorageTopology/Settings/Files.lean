import StorageTopology.Text.Utf8

/-!
# Reading files

`Files` is how the content of the file at a path is read; reading fails as the operating system
fails. A settings file is text, so content that is not UTF-8 is an error as well.
-/

namespace StorageTopology

/-- Why a file cannot be read. -/
inductive FileError where
  | notFound
  | notADirectory
  | isADirectory
  | nameTooLong
  | nulInName
  | notUtf8
  | other (detail : String)
  deriving DecidableEq, Repr

namespace FileError

/-- The error in words. -/
def message : FileError → String
  | .notFound => "No such file or directory (os error 2)"
  | .notADirectory => "Not a directory (os error 20)"
  | .isADirectory => "Is a directory (os error 21)"
  | .nameTooLong => "File name too long (os error 36)"
  | .nulInName => "file name contained an unexpected NUL byte"
  | .notUtf8 => "stream did not contain valid UTF-8"
  | .other detail => detail

end FileError

/-- The content of the file at a path. -/
abbrev Files := String → Except FileError Bytes

/-- The text of the file at `path`. -/
def Files.readText (files : Files) (path : String) : Except FileError String := do
  let content ← files path
  match Utf8.text? content with
  | some text => .ok text
  | none => .error .notUtf8

end StorageTopology
