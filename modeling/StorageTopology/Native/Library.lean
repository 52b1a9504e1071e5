import StorageTopology.Engine.Basic

/-!
# The volume library of a process

The native library, `liblvm2cmd`, is one for the whole process. Its contexts run command lines,
and everything it logs goes to one callback (`lvm_log_capture`) that carries no data of its own,
so the sink that the callback reaches is held in one slot for the process (`SinkSlot`). Every
handle to a context has an owner number of its own; installing a sink writes the slot with the
owner's number, and only the owner that wrote the slot last clears it. `trace` records what the
library saw.

The library answers command lines with scripted replies. A callback without a message, and one
that comes while the slot is empty or at a level that the sink does not accept, has no effect.
-/

namespace StorageTopology.Native

open Diagnostics

/-- A call of the logging callback; the message may be missing. -/
structure Callback where
  level : Int32
  message : Option Entry
  deriving DecidableEq, Repr

/-- What the library does at one command line: its callbacks, then its status code. -/
structure LibraryReply where
  callbacks : List Callback
  code : Int32
  deriving Repr

/-- The reply of a library that has nothing to say. -/
def LibraryReply.silent : LibraryReply := ⟨[], 1⟩

/-- What the library saw; contexts are numbered from zero as they come into being. -/
inductive Event where
  | registered
  | initialized (context : Nat)
  | initFailed
  | ran (context : Nat) (command : Bytes)
  | exited (context : Nat)
  deriving DecidableEq, Repr

/-- A handle to a context, with the number that it owns the slot by. -/
structure Handle where
  context : Nat
  owner : UInt64
  deriving DecidableEq, Repr

/-- The state of the library and of the slot. Owner numbers are words, which wrap around. -/
structure Library where
  slot : Option (UInt64 × Sink)
  nextOwner : UInt64
  nextContext : Nat
  trace : List Event
  replies : List LibraryReply
  deriving Repr

namespace Library

/-- The library before its first use. -/
def initial : Library := ⟨none, 1, 0, [], []⟩

/-- Add an event to the trace. -/
def record (l : Library) (e : Event) : Library :=
  { l with trace := l.trace ++ [e] }

/-- The effect of a callback on the queues. -/
def callBack (l : Library) (c : Callback) (qs : Queues) : Queues :=
  match c.message, l.slot with
  | some message, some (_, sink) =>
    if sink.accepts c.level then sink.log ⟨c.level, message⟩ qs else qs
  | _, _ => qs

/-- Callbacks in order. -/
def callBackAll (l : Library) (cs : List Callback) (qs : Queues) : Queues :=
  cs.foldl (fun qs c => l.callBack c qs) qs

/-- Register the callback and start a context; with `fails` the library refuses. -/
def start (l : Library) (fails : Bool) : Except Failure Handle × Library :=
  let l := l.record .registered
  if fails then (.error .engineInit, l.record .initFailed)
  else
    let h : Handle := ⟨l.nextContext, l.nextOwner⟩
    (.ok h, { l.record (.initialized h.context) with
      nextContext := l.nextContext + 1, nextOwner := l.nextOwner + 1 })

/-- Put a sink into the slot. -/
def install (l : Library) (h : Handle) (sink : Sink) : Library :=
  { l with slot := some (h.owner, sink) }

/-- Clear the slot if `h` owns it. -/
def release (l : Library) (h : Handle) : Library :=
  match l.slot with
  | some (owner, _) => if owner = h.owner then { l with slot := none } else l
  | none => l

/-- Run a command line in the context of `h`. One that has a zero byte cannot be handed over. -/
def run (l : Library) (h : Handle) (command : String) (qs : Queues) :
    Except Failure Int32 × Library × Queues :=
  if '\x00' ∈ command.toList then (.error (.argument (.nulInCommand command)), l, qs)
  else
    let reply := l.replies.head?.getD .silent
    let l := { l.record (.ran h.context (Utf8.encode command)) with replies := l.replies.tail }
    (.ok reply.code, l, l.callBackAll reply.callbacks qs)

/-- Give up a handle: the slot is cleared if it is the handle's, and the context ends. -/
def drop (l : Library) (h : Handle) : Library :=
  (l.release h).record (.exited h.context)

/-! ## What the operations leave as it is -/

/-- The callbacks that come while a command line runs. -/
def callbacks (l : Library) (command : String) : List Callback :=
  if '\x00' ∈ command.toList then [] else (l.replies.head?.getD .silent).callbacks

theorem length_contents_callBack (l : Library) (c : Callback) (qs : Queues) :
    (l.callBack c qs).contents.length = qs.contents.length := by
  unfold callBack
  split
  · split
    · exact Sink.length_contents_log _ _ qs
    · rfl
  · rfl

theorem length_contents_callBackAll (l : Library) (cs : List Callback) (qs : Queues) :
    (l.callBackAll cs qs).contents.length = qs.contents.length := by
  induction cs generalizing qs with
  | nil => rfl
  | cons c cs ih => exact (ih (l.callBack c qs)).trans (l.length_contents_callBack c qs)

theorem callBack_eq_push {l : Library} {owner : UInt64} {sink : Sink} {c : Callback}
    {message : Entry} (hslot : l.slot = some (owner, sink)) (hmessage : c.message = some message)
    (hlevel : c.level = sink.level) (qs : Queues) :
    l.callBack c qs = qs.push sink.queue message := by
  simp [callBack, hslot, hmessage, hlevel, Sink.accepts, Sink.log]

theorem callBack_eq_self {l : Library} {c : Callback} (h : c.message = none ∨ l.slot = none ∨
      ∃ owner sink, l.slot = some (owner, sink) ∧ c.level ≠ sink.level) (qs : Queues) :
    l.callBack c qs = qs := by
  unfold callBack
  rcases h with hmessage | hslot | ⟨owner, sink, hslot, hlevel⟩
  · rw [hmessage]
  · rw [hslot]
    cases c.message <;> rfl
  · rw [hslot]
    cases c.message with
    | none => rfl
    | some message => simp [Sink.accepts, hlevel]

/-- Callbacks depend on the slot only. -/
theorem callBack_congr {l l' : Library} (h : l.slot = l'.slot) (c : Callback) (qs : Queues) :
    l.callBack c qs = l'.callBack c qs := by
  unfold callBack
  rw [h]

theorem callBackAll_congr {l l' : Library} (h : l.slot = l'.slot) (cs : List Callback)
    (qs : Queues) : l.callBackAll cs qs = l'.callBackAll cs qs := by
  unfold callBackAll
  rw [show l.callBack = l'.callBack from funext fun c => funext fun qs => callBack_congr h c qs]

/-- The queue of the sink takes the messages of callbacks at the level of the sink, in order. -/
theorem entries_callBackAll {l : Library} {owner : UInt64} {sink : Sink}
    (hslot : l.slot = some (owner, sink)) (cs : List Callback) {qs : Queues}
    (h : sink.queue < qs.contents.length) :
    (l.callBackAll cs qs).entries sink.queue = qs.entries sink.queue ++
      (cs.filter fun c => c.level = sink.level).filterMap (·.message) := by
  induction cs generalizing qs with
  | nil => exact (List.append_nil _).symm
  | cons c cs ih =>
    have hone : (l.callBack c qs).entries sink.queue = qs.entries sink.queue ++
        ([c].filter fun c => c.level = sink.level).filterMap (·.message) := by
      by_cases hlevel : c.level = sink.level
      · cases hmessage : c.message with
        | none =>
          rw [callBack_eq_self (.inl hmessage)]
          simp [hlevel, hmessage]
        | some message =>
          rw [callBack_eq_push hslot hmessage hlevel, Queues.entries_push_self h]
          simp [hlevel, hmessage]
      · rw [callBack_eq_self (.inr (.inr ⟨owner, sink, hslot, hlevel⟩))]
        simp [hlevel]
    show (l.callBackAll cs (l.callBack c qs)).entries sink.queue = _
    rw [ih (by rwa [length_contents_callBack]), hone, List.append_assoc, ← List.filterMap_append,
      ← List.filter_append]
    rfl

/-- Callbacks leave every queue alone that is not the one of the sink. -/
theorem entries_callBackAll_of_ne {l : Library} {q : QueueId}
    (h : ∀ owner sink, l.slot = some (owner, sink) → sink.queue ≠ q) (cs : List Callback)
    (qs : Queues) : (l.callBackAll cs qs).entries q = qs.entries q := by
  induction cs generalizing qs with
  | nil => rfl
  | cons c cs ih =>
    refine (ih (l.callBack c qs)).trans ?_
    unfold callBack
    split
    · rename_i message owner sink hmessage hslot
      split
      · exact Sink.entries_log_of_ne (h owner sink hslot) _ qs
      · rfl
    · rfl

/-- A command line reaches the queues through its callbacks only. -/
theorem queues_run (l : Library) (h : Handle) (command : String) (qs : Queues) :
    (l.run h command qs).2.2 = l.callBackAll (l.callbacks command) qs := by
  unfold run callbacks
  split
  · rfl
  · exact callBackAll_congr rfl _ qs

theorem slot_run (l : Library) (h : Handle) (command : String) (qs : Queues) :
    (l.run h command qs).2.1.slot = l.slot := by
  unfold run
  split <;> rfl

theorem nextOwner_run (l : Library) (h : Handle) (command : String) (qs : Queues) :
    (l.run h command qs).2.1.nextOwner = l.nextOwner := by
  unfold run
  split <;> rfl

/-- Only the owner of the slot clears it. -/
theorem slot_drop (l : Library) (h : Handle) :
    (l.drop h).slot = if l.slot.map Prod.fst = some h.owner then none else l.slot := by
  show (l.release h).slot = _
  unfold release
  cases hslot : l.slot with
  | none => simp [hslot]
  | some owned =>
    by_cases howner : owned.1 = h.owner
    · simp [howner]
    · simp [howner, hslot]

theorem nextOwner_drop (l : Library) (h : Handle) : (l.drop h).nextOwner = l.nextOwner := by
  show (l.release h).nextOwner = _
  unfold release
  split
  · split <;> rfl
  · rfl

theorem replies_drop (l : Library) (h : Handle) : (l.drop h).replies = l.replies := by
  show (l.release h).replies = _
  unfold release
  split
  · split <;> rfl
  · rfl

end Library

/-- A handle together with the library behind it, which is an engine. -/
structure Attached where
  library : Library
  handle : Handle

namespace Attached

/-- Run one command line. -/
def run (command : String) (a : Attached) (qs : Queues) : Engine.Ran Attached :=
  let (answer, l, qs) := a.library.run a.handle command qs
  ⟨answer.map Engine.Status.ofCode, { a with library := l }, qs⟩

/-- A sink goes into the one slot of the library. -/
instance : Engine Attached where
  install sink a := { a with library := a.library.install a.handle sink }
  run := run

end Attached

end StorageTopology.Native
