import StorageTopology.Engine.Scripted

/-!
# Engines that only report

An `Engine` may do anything to the queues. A reporting engine does one thing: at a command line
it logs records, in order, to the sink that was installed on it last, and then it answers with a
status code or fails. Which records and which answer (`Reporting.reply`) may depend on the
command line, on the engine and on what is queued, so nothing is assumed of them.

The scripted engine is one: its reply is the next of its script.
-/

namespace StorageTopology.Engine

open Diagnostics

/-- An engine that reaches the queues only by logging to its sink. -/
class Reporting (S : Type) [Engine S] where
  /-- The sink installed last. -/
  sink : S → Option Sink
  /-- What the engine logs and answers at a command line. -/
  reply : String → S → Queues → ScriptedReply
  sink_install (k : Sink) (e : S) : sink (Engine.install k e) = some k
  sink_run (command : String) (e : S) (qs : Queues) :
    sink (Engine.run command e qs).engine = sink e
  answer_run (command : String) (e : S) (qs : Queues) :
    (Engine.run command e qs).answer = (reply command e qs).answer.map Status.ofCode
  queues_run {k : Sink} {e : S} (h : sink e = some k) (command : String) (qs : Queues) :
    (Engine.run command e qs).queues = k.logAll (reply command e qs).records qs

/-- A scripted engine reports the next of its replies. -/
instance : Reporting Scripted where
  sink e := e.sink
  reply _ e _ := e.replies.head?.getD .silent
  sink_install _ _ := rfl
  sink_run _ _ _ := rfl
  answer_run _ _ _ := rfl
  queues_run {k e} h _ qs := by
    show e.log _ qs = _
    unfold Scripted.log
    rw [h]

end StorageTopology.Engine
