import StorageTopology.Engine.Basic
import StorageTopology.Lvm.Request

/-!
# Sessions

A session (`Lvm`) pairs an engine with the queue behind the sink that is installed on it. `run`
runs one command line and then always drains the queue, on success and on failure, so that no line
is left for the next command; what was queued is the captured output, one line for each entry.
`perform` carries out a request: it checks the arguments before anything reaches the engine, runs
the command line, and reads what came back. A rename is followed by a report on the new name.
-/

namespace StorageTopology

open Diagnostics Lvm

/-- An engine, and the queue that its sink feeds. -/
structure Session (S : Type) where
  engine : S
  queue : QueueId

namespace Session

variable {S : Type} [Engine S]

/-- Something that a session does: it may fail, and it changes the session and the queues in
either case. -/
abbrev Activity (S : Type) (α : Type) : Type :=
  ExceptT Failure (StateM (Session S × Queues)) α

/-- A session on `engine` whose output goes through `sink`. -/
def start (engine : S) (sink : Sink) : Session S :=
  ⟨Engine.install sink engine, sink.queue⟩

/-- A session on `engine` with a new queue of its own, at the level of results. -/
def startOwn (engine : S) (qs : Queues) : Session S × Queues :=
  let (q, qs) := qs.create
  (start engine ⟨q, captureLevel⟩, qs)

/-- Captured entries as text, each ended by a line feed. -/
def transcript (entries : List Entry) : String :=
  String.join (entries.map fun e => Utf8.lossy e ++ "\n")

/-- Run one command line and answer with the captured output. -/
def run (command : String) : Activity S String := do
  let (s, qs) ← get
  let ran := Engine.run command s.engine qs
  let (entries, qs) := ran.queues.drain s.queue
  set (({ s with engine := ran.engine }, qs) : Session S × Queues)
  match ran.answer with
  | .error failure => throw failure
  | .ok status =>
    if status.isSuccess then pure (transcript entries)
    else throw (.engine command status (transcript entries))

/-- Run the command line of a request. -/
def runRequest (r : Request) : Activity S String := do
  let line ← r.line
  run line

/-- Read a report. -/
def readReport {α : Type} (parse : String → Except ParseError (List α)) (output : String) :
    Activity S (List α) :=
  match parse output with
  | .ok rows => pure rows
  | .error cause => throw (.parse cause)

/-- A report on physical volumes. -/
def pvs (filter : List String) : Activity S (List PhysicalVolume) := do
  let output ← runRequest (.pvs filter)
  readReport PhysicalVolume.parseReport output

/-- A report on volume groups. -/
def vgs (filter : List String) : Activity S (List VolumeGroup) := do
  let output ← runRequest (.vgs filter)
  readReport VolumeGroup.parseReport output

/-- A report on logical volumes. -/
def lvs (filter : List String) : Activity S (List LogicalVolume) := do
  let output ← runRequest (.lvs filter)
  readReport LogicalVolume.parseReport output

/-- Rename a group and report on it under its new name. -/
def vgrename (old new : String) : Activity S VolumeGroup := do
  let _ ← runRequest (.vgrename old new)
  match ← vgs [new] with
  | group :: _ => pure group
  | [] => throw (.operation (.missingAfterRename "vg" new))

/-- Rename a logical volume and report on it under its new name. -/
def lvrename (vg old new : String) : Activity S LogicalVolume := do
  let _ ← runRequest (.lvrename vg old new)
  match ← lvs [volumeWord vg new] with
  | volume :: _ => pure volume
  | [] => throw (.operation (.missingAfterRename "lv" (volumeWord vg new)))

/-- Carry out a request. -/
def perform : Request → Activity S Reply
  | .run command => do
    let output ← run command
    pure (.text output)
  | .pvs filter => do
    let volumes ← pvs filter
    pure (.physicalVolumes volumes)
  | .vgs filter => do
    let groups ← vgs filter
    pure (.volumeGroups groups)
  | .lvs filter => do
    let volumes ← lvs filter
    pure (.logicalVolumes volumes)
  | .vgrename old new => do
    let group ← vgrename old new
    pure (.volumeGroups [group])
  | .lvrename vg old new => do
    let volume ← lvrename vg old new
    pure (.logicalVolumes [volume])
  | request => do
    let _ ← runRequest request
    pure .done

/-- What an activity does to a session and the queues. -/
def exec {α : Type} (act : Activity S α) (s : Session S) (qs : Queues) :
    Except Failure α × Session S × Queues :=
  act.run (s, qs)

end Session

end StorageTopology
