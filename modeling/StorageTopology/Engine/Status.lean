/-!
# Status codes of the volume engine

An engine answers a command with a number (`EngineStatus`). Five numbers have a meaning; only the
first of them is a success.
-/

namespace StorageTopology.Engine

/-- What an engine answers to a command. -/
inductive Status where
  | processed
  | noSuchCommand
  | invalidCommandLine
  | initFailed
  | commandFailed
  | unknown (code : Int32)
  deriving DecidableEq, Repr

namespace Status

/-- The meaning of a code. -/
def ofCode (code : Int32) : Status :=
  if code = 1 then .processed
  else if code = 2 then .noSuchCommand
  else if code = 3 then .invalidCommandLine
  else if code = 4 then .initFailed
  else if code = 5 then .commandFailed
  else .unknown code

/-- The code of a status. -/
def code : Status → Int32
  | .processed => 1
  | .noSuchCommand => 2
  | .invalidCommandLine => 3
  | .initFailed => 4
  | .commandFailed => 5
  | .unknown c => c

/-- Whether the command was carried out. -/
def isSuccess (s : Status) : Bool := s = .processed

/-- The status in words. -/
def description : Status → String
  | .processed => "processed"
  | .noSuchCommand => "no such command"
  | .invalidCommandLine => "invalid command line"
  | .initFailed => "initialization failed"
  | .commandFailed => "command failed"
  | .unknown _ => "unknown status"

/-- The status in words, and its code. -/
def message (s : Status) : String :=
  s.description ++ " (" ++ s.code.toInt.repr ++ ")"

theorem code_ofCode (c : Int32) : (ofCode c).code = c := by
  unfold ofCode
  repeat' split
  all_goals simp_all [code]

theorem isSuccess_ofCode (c : Int32) : (ofCode c).isSuccess = true ↔ c = 1 := by
  unfold ofCode isSuccess
  repeat' split
  all_goals simp_all

end Status

end StorageTopology.Engine
