import StorageTopology.Diagnostics.Sink

/-!
# Using queues through handles

Clients hold handles to queues (`DiagnosticQueue`) and sinks over them (`CaptureSink`), and
address both by position. Two handles may refer to one queue. `Clients.step` carries out one
operation; an operation through a handle or a sink that nobody holds has no answer. At the start
there are two handles: one to the queue of the process, one to a new queue.
-/

namespace StorageTopology.Diagnostics

/-- The queues, the queue behind every handle, and the sinks. -/
structure Clients where
  queues : Queues
  handles : List QueueId
  sinks : List Sink
  deriving Repr

/-- An operation through a handle or a sink. -/
inductive Operation where
  | new
  | clone (handle : Nat)
  | global
  | push (handle : Nat) (entry : Entry)
  | tryPush (handle : Nat) (entry : Entry)
  | pop (handle : Nat)
  | tryPop (handle : Nat)
  | isEmpty (handle : Nat)
  | length (handle : Nat)
  | dropped (handle : Nat)
  | drain (handle : Nat)
  | reset (handle : Nat)
  | sink (handle : Nat) (level : Int32)
  | accepts (sink : Nat) (level : Int32)
  | log (sink : Nat) (record : LogRecord)
  deriving Repr

/-- The answer to an operation: `handle` and `sink` are positions of new ones. -/
inductive Answer where
  | nothing
  | handle (position : Nat)
  | sink (position : Nat) (level : Int32)
  | flag (b : Bool)
  | count (n : Nat)
  | entry (e : Option Entry)
  | terminated (bytes : Bytes)
  | entries (es : List Entry)
  | failed (cause : QueueError)
  deriving Repr

namespace Clients

/-- The clients at the start. -/
def initial : Clients :=
  let (q, qs) := Queues.initial.create
  ⟨qs, [Queues.globalId, q], []⟩

/-- Add a handle to the queue `q`. -/
def hold (c : Clients) (q : QueueId) : Answer × Clients :=
  (.handle c.handles.length, { c with handles := c.handles ++ [q] })

/-- Carry out an operation on the queue behind a handle. -/
def atHandle (c : Clients) (handle : Nat) (act : QueueId → Answer × Queues) :
    Option (Answer × Clients) := do
  let q ← c.handles[handle]?
  let (answer, qs) := act q
  some (answer, { c with queues := qs })

/-- Carry out one operation. -/
def step (c : Clients) : Operation → Option (Answer × Clients)
  | .new =>
    let (q, qs) := c.queues.create
    some (hold { c with queues := qs } q)
  | .clone h => do
    let q ← c.handles[h]?
    some (c.hold q)
  | .global => some (c.hold Queues.globalId)
  | .push h e => c.atHandle h fun q => (.nothing, c.queues.push q e)
  | .tryPush h e => c.atHandle h fun q =>
    let (refused, qs) := c.queues.tryPush q e
    (.entry refused, qs)
  | .pop h => c.atHandle h fun q =>
    let (e, qs) := c.queues.pop q
    (.entry e, qs)
  | .tryPop h => c.atHandle h fun q =>
    match c.queues.tryPop q with
    | (.ok e, qs) => (.terminated e.terminated, qs)
    | (.error cause, qs) => (.failed cause, qs)
  | .isEmpty h => c.atHandle h fun q => (.flag (c.queues.isEmpty q), c.queues)
  | .length h => c.atHandle h fun q => (.count (c.queues.length q), c.queues)
  | .dropped h => c.atHandle h fun q => (.count (c.queues.dropped q), c.queues)
  | .drain h => c.atHandle h fun q =>
    let (es, qs) := c.queues.drain q
    (.entries es, qs)
  | .reset h => c.atHandle h fun q => (.nothing, c.queues.reset q)
  | .sink h level => do
    let q ← c.handles[h]?
    some (.sink c.sinks.length level, { c with sinks := c.sinks ++ [⟨q, level⟩] })
  | .accepts s level => do
    let sink ← c.sinks[s]?
    some (.flag (sink.accepts level), c)
  | .log s r => do
    let sink ← c.sinks[s]?
    let qs := sink.log r c.queues
    some (.count (qs.length sink.queue), { c with queues := qs })

/-- The number of entries behind every handle. -/
def lengths (c : Clients) : List Nat := c.handles.map c.queues.length

end Clients

end StorageTopology.Diagnostics
