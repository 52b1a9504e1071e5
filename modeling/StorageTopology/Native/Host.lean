import StorageTopology.Engine.Session
import StorageTopology.Native.Library

/-!
# Handles to the native library

A host holds handles to the library (`Lvm2Cmd`) by position. A handle is raw, or wrapped in a
session with a queue, or dropped; a position is never used again. `Host.step` carries out one
step: it starts a context, lets the library log on its own, installs a sink, runs a command line,
wraps a handle in a session or unwraps it, carries out a request in a session, drops a handle, or
drains a queue. A step that needs a handle in another form, or a queue that is not there, has no
answer.
-/

namespace StorageTopology.Native

open Diagnostics

/-- What a host holds at one position. -/
inductive Held where
  | raw (handle : Handle)
  | wrapped (handle : Handle) (queue : QueueId)
  | dropped (handle : Handle)
  deriving DecidableEq, Repr

/-- The library, the queues, and the handles by position. -/
structure Host where
  library : Library
  queues : Queues
  handles : List Held
  deriving Repr

/-- One step; `wrap` makes a queue of its own for the session if it is given none. -/
inductive Step where
  | start (fails : Bool)
  | callBack (callback : Callback)
  | install (position : Nat) (sink : Sink)
  | run (position : Nat) (command : String)
  | wrap (position : Nat) (queue : Option QueueId) (level : Int32)
  | unwrap (position : Nat)
  | perform (position : Nat) (request : Lvm.Request)
  | drop (position : Nat)
  | drain (queue : QueueId)
  deriving Repr

/-- The answer to a step. -/
inductive Answer where
  | nothing
  | started (position : Nat)
  | status (code : Int32)
  | reply (reply : Lvm.Reply)
  | entries (es : List Entry)
  | failed (cause : Failure)
  deriving Repr

namespace Host

/-- A host with the given queues and no handles. -/
def initial (queues : Queues) : Host := ⟨.initial, queues, []⟩

/-- Change what is held at a position. -/
def hold (p : Host) (position : Nat) (h : Held) : Host :=
  { p with handles := p.handles.set position h }

/-- The handle at a position, if it is raw. -/
def raw? (p : Host) (position : Nat) : Option Handle :=
  match p.handles[position]? with
  | some (.raw h) => some h
  | _ => none

/-- The handle at a position and the queue of its session, if it is wrapped. -/
def wrapped? (p : Host) (position : Nat) : Option (Handle × QueueId) :=
  match p.handles[position]? with
  | some (.wrapped h q) => some (h, q)
  | _ => none

/-- Wrap a handle in a session whose sink feeds the queue `q`. -/
def wrap (p : Host) (position : Nat) (h : Handle) (q : QueueId) (level : Int32) : Host :=
  let s := Session.start (⟨p.library, h⟩ : Attached) ⟨q, level⟩
  { p.hold position (.wrapped h s.queue) with library := s.engine.library }

/-- Carry out a request in the session of a handle. -/
def perform (p : Host) (h : Handle) (q : QueueId) (request : Lvm.Request) : Answer × Host :=
  let attached : Session Attached := ⟨⟨p.library, h⟩, q⟩
  let (answer, s, qs) := Session.exec (Session.perform request) attached p.queues
  let p := { p with library := s.engine.library, queues := qs }
  match answer with
  | .ok reply => (.reply reply, p)
  | .error cause => (.failed cause, p)

/-- Carry out one step. -/
def step (p : Host) : Step → Option (Answer × Host)
  | .start fails =>
    match p.library.start fails with
    | (.ok h, l) =>
      some (.started p.handles.length, { p with library := l, handles := p.handles ++ [.raw h] })
    | (.error cause, l) => some (.failed cause, { p with library := l })
  | .callBack c => some (.nothing, { p with queues := p.library.callBack c p.queues })
  | .install i sink => do
    let h ← p.raw? i
    if sink.queue < p.queues.contents.length then
      some (.nothing, { p with library := p.library.install h sink })
    else none
  | .run i command => do
    let h ← p.raw? i
    let (answer, l, qs) := p.library.run h command p.queues
    let p := { p with library := l, queues := qs }
    match answer with
    | .ok code => some (.status code, p)
    | .error cause => some (.failed cause, p)
  | .wrap i queue level => do
    let h ← p.raw? i
    match queue with
    | some q => if q < p.queues.contents.length then some (.nothing, p.wrap i h q level) else none
    | none =>
      let (q, qs) := p.queues.create
      some (.nothing, { p with queues := qs }.wrap i h q level)
  | .unwrap i => do
    let (h, _) ← p.wrapped? i
    some (.nothing, p.hold i (.raw h))
  | .perform i request => do
    let (h, q) ← p.wrapped? i
    some (p.perform h q request)
  | .drop i =>
    match p.handles[i]? with
    | some (.raw h) | some (.wrapped h _) =>
      some (.nothing, { p.hold i (.dropped h) with library := p.library.drop h })
    | _ => none
  | .drain q =>
    if q < p.queues.contents.length then
      let (es, qs) := p.queues.drain q
      some (.entries es, { p with queues := qs })
    else none

/-- Carry out one step in which the library answers command lines with `replies`. -/
def stepWith (p : Host) (replies : List LibraryReply) (s : Step) : Option (Answer × Host) :=
  { p with library := { p.library with replies := replies } }.step s

end Host

end StorageTopology.Native
