import StorageTopology.Disk
import StorageTopology.Engine.Status

/-!
# Failures

Everything that can go wrong when a disk is described or when a command runs in a session, by its
cause, and the message of each (`SysError`). The words of the operating system and those of the
JSON reader are left out, and a fault of a path comes only inside a fault of the topology. The cases
`other` carry the words of an engine that reports a failure of its own.
-/

namespace StorageTopology

/-- An argument that is not acceptable. -/
inductive ArgumentError where
  | notAWord (what value : String)
  | noneGiven (what : String)
  | nulInCommand (command : String)
  | emptyDiskPath
  | other (detail : String)
  deriving DecidableEq, Repr

namespace ArgumentError

/-- The error in words. -/
def message : ArgumentError → String
  | .notAWord what value => what ++ ": " ++ Text.quoted value
  | .noneGiven what => "no " ++ what ++ " provided"
  | .nulInCommand command => "NUL byte in command: " ++ Text.quoted command
  | .emptyDiskPath => "empty disk path"
  | .other detail => detail

end ArgumentError

/-- An output that does not say what it should. -/
inductive ParseError where
  | badColumn (column value : String)
  | deviceCount (found : Nat)
  | foreignPartition (child device : String)
  | other (detail : String)
  deriving DecidableEq, Repr

namespace ParseError

/-- The error in words. -/
def message : ParseError → String
  | .badColumn column value => "invalid " ++ column ++ ": " ++ Text.quoted value
  | .deviceCount found => "expected exactly one block device, found " ++ found.repr
  | .foreignPartition child device =>
    "cannot derive partition number of " ++ child ++ " on " ++ device
  | .other detail => detail

end ParseError

/-- An operation that did not do what it should. -/
inductive OperationError where
  | missingAfterRename (kind name : String)
  | toolFailed (program errors : String)
  | other (detail : String)
  deriving DecidableEq, Repr

namespace OperationError

/-- The error in words. -/
def message : OperationError → String
  | .missingAfterRename kind name => kind ++ " " ++ name ++ " missing after rename"
  | .toolFailed program errors => program ++ " failed: " ++ errors
  | .other detail => detail

end OperationError

/-- A failure. `engine` holds the command, what the engine answered, and what it had logged. -/
inductive Failure where
  | io
  | engine (command : String) (status : Engine.Status) (output : String)
  | engineInit
  | toolNotFound (name : String)
  | operation (cause : OperationError)
  | argument (cause : ArgumentError)
  | parse (cause : ParseError)
  | json
  | topology (cause : TopologyError)
  deriving DecidableEq, Repr

namespace Failure

/-- The failure in words, without what the engine had logged. -/
def message : Failure → String
  | .io => "I/O error"
  | .engine command status _ => "`" ++ command ++ "`"
      ++ " returned " ++ status.message
  | .engineInit => "engine initialization failed"
  | .toolNotFound name => "Tool not found: " ++ name
  | .operation cause => "Operation failed: " ++ cause.message
  | .argument cause => "Invalid argument: " ++ cause.message
  | .parse cause => "Parse error: " ++ cause.message
  | .json => "malformed JSON"
  | .topology cause => cause.message

end Failure

end StorageTopology
