import StorageTopology.Engine.Scripted
import StorageTopology.Engine.Session

/-!
# A scripted session and what happens to it

The session runs over a scripted engine, which logs to its sink and nothing else. In a history
(`Turn`), requests alternate with what happens in between: the engine logs on its own, and queues
are drained. `Stage` is where a history leads: the answers to the requests so far, the session, and
the queues.
-/

namespace StorageTopology.Session

open Diagnostics Engine

/-- A request, for which the engine has replies ready, or something that happens between requests:
records that the engine logs on its own, or the drain of a queue. -/
inductive Turn where
  | request (r : Lvm.Request) (replies : List ScriptedReply)
  | log (records : List LogRecord)
  | drain (queue : QueueId)

/-- What a scripted session answered so far, and where it stands. -/
structure Stage where
  answers : List (Except Failure Lvm.Reply)
  session : Session Scripted
  queues : Queues

namespace Stage

/-- A session that was just built over a sink. -/
def opening (sink : Sink) (queues : Queues) : Stage :=
  ⟨[], start (.ofReplies []) sink, queues⟩

/-- The session with new replies for its engine. -/
def ready (g : Stage) (replies : List ScriptedReply) : Session Scripted :=
  { g.session with engine := { g.session.engine with replies := replies } }

/-- Carry out one turn. -/
def turn (g : Stage) : Turn → Stage
  | .request r replies =>
    let (answer, s, qs) := exec (perform r) (g.ready replies) g.queues
    ⟨g.answers ++ [answer], s, qs⟩
  | .log records => { g with queues := g.session.engine.log records g.queues }
  | .drain q => { g with queues := (g.queues.drain q).2 }

/-- Carry out turns in order. -/
def after (g : Stage) (history : List Turn) : Stage :=
  history.foldl turn g

theorem after_append (g : Stage) (history more : List Turn) :
    g.after (history ++ more) = (g.after history).after more :=
  List.foldl_append

end Stage

end StorageTopology.Session
