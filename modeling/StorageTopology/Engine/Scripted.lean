import StorageTopology.Engine.Basic

/-!
# An engine that follows a script

The scripted engine (`ScriptedEngine`) answers each command line with the next of its replies: it
logs the records of the reply directly to its sink and gives the answer of the reply. Without a
reply it logs nothing and succeeds. It keeps the command lines that it got.
-/

namespace StorageTopology.Engine

open Diagnostics

/-- What an engine does at one command line: what it logs, then its status code or failure. -/
structure ScriptedReply where
  records : List LogRecord
  answer : Except Failure Int32

/-- The reply of an engine that has nothing to say. -/
def ScriptedReply.silent : ScriptedReply := ⟨[], .ok 1⟩

/-- A scripted engine: the sink installed last, the replies still to come, and the command lines
so far. -/
structure Scripted where
  sink : Option Sink
  replies : List ScriptedReply
  commands : List String

namespace Scripted

/-- An engine that has not run yet. -/
def ofReplies (replies : List ScriptedReply) : Scripted := ⟨none, replies, []⟩

/-- Log records, to nowhere if there is no sink. -/
def log (e : Scripted) (records : List LogRecord) (qs : Queues) : Queues :=
  match e.sink with
  | some sink => sink.logAll records qs
  | none => qs

/-- Run one command line. -/
def run (command : String) (e : Scripted) (qs : Queues) : Ran Scripted :=
  let reply := e.replies.head?.getD .silent
  { answer := reply.answer.map Status.ofCode
    engine := { e with replies := e.replies.tail, commands := e.commands ++ [command] }
    queues := e.log reply.records qs }

/-- The sink installed last is the one that is used. -/
instance : Engine Scripted where
  install sink e := { e with sink := some sink }
  run := run

end Scripted

end StorageTopology.Engine
