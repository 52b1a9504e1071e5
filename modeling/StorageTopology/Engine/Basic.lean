import StorageTopology.Diagnostics.Sink
import StorageTopology.Failure

/-!
# Volume engines

An engine (`VolumeEngine`) runs command lines to completion. It answers with a status only;
whatever it prints it logs through the sink that is installed on it. `Engine S` says how an engine
whose state is an `S` takes a sink and runs a command line. Both may change the queues, since a
sink feeds one of them.
-/

namespace StorageTopology

open Diagnostics

/-- What a command line did: the answer, the engine after it and the queues after it. -/
structure Engine.Ran (S : Type) where
  answer : Except Failure Engine.Status
  engine : S
  queues : Queues

/-- An engine whose state is an `S`. -/
class Engine (S : Type) where
  /-- Send what the engine logs to a sink. -/
  install : Sink → S → S
  /-- Run one command line. -/
  run : String → S → Queues → Engine.Ran S

end StorageTopology
