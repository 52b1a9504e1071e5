import StorageTopology.Text.Utf8

/-!
# Diagnostic queues

A diagnostic queue (`DiagnosticQueue`) holds messages of the engine, oldest first. Several handles
may refer to one queue, so the queues live in a store, `Queues`, and a handle is a `QueueId`. The
first queue of the store is there from the start and belongs to the whole process (`global`).

An entry is the bytes of a message, none of which is zero; `terminated` is the entry with the zero
byte that ends it. Storage does not run out, so an entry is never refused and `dropped`, the
number of entries lost, is zero.
-/

namespace StorageTopology.Diagnostics

/-- The bytes of a message, without the zero byte at its end. -/
abbrev Entry := Bytes

/-- An entry with the zero byte at its end. -/
def Entry.terminated (e : Entry) : Bytes := e ++ [0]

/-- Which queue of the store. -/
abbrev QueueId := Nat

/-- The contents of every queue. -/
structure Queues where
  contents : List (List Entry)
  deriving Repr

/-- Why a queue does not answer. -/
inductive QueueError where
  | popOnEmpty
  deriving DecidableEq, Repr

namespace QueueError

/-- The error in words. -/
def message : QueueError → String
  | .popOnEmpty => "pop on empty diagnostic queue"

end QueueError

namespace Queues

/-- The queue of the whole process. -/
def globalId : QueueId := 0

/-- The store at the start: the queue of the process, empty. -/
def initial : Queues := ⟨[[]]⟩

/-- A new, empty queue. -/
def create (qs : Queues) : QueueId × Queues :=
  (qs.contents.length, ⟨qs.contents ++ [[]]⟩)

/-- The entries of a queue, oldest first. -/
def entries (qs : Queues) (q : QueueId) : List Entry :=
  qs.contents[q]?.getD []

/-- The store with `f` applied to the entries of one queue. -/
def update (qs : Queues) (q : QueueId) (f : List Entry → List Entry) : Queues :=
  ⟨qs.contents.modify q f⟩

/-- Append an entry. -/
def push (qs : Queues) (q : QueueId) (e : Entry) : Queues :=
  qs.update q (· ++ [e])

/-- Append an entry, or give it back if the queue cannot grow. -/
def tryPush (qs : Queues) (q : QueueId) (e : Entry) : Option Entry × Queues :=
  (none, qs.push q e)

/-- Remove the oldest entry. -/
def pop (qs : Queues) (q : QueueId) : Option Entry × Queues :=
  ((qs.entries q).head?, qs.update q List.tail)

/-- Remove the oldest entry; an empty queue is an error. -/
def tryPop (qs : Queues) (q : QueueId) : Except QueueError Entry × Queues :=
  match qs.pop q with
  | (some e, rest) => (.ok e, rest)
  | (none, rest) => (.error .popOnEmpty, rest)

/-- Remove all entries. -/
def drain (qs : Queues) (q : QueueId) : List Entry × Queues :=
  (qs.entries q, qs.update q fun _ => [])

/-- Discard all entries. -/
def reset (qs : Queues) (q : QueueId) : Queues :=
  qs.update q fun _ => []

/-- The number of entries. -/
def length (qs : Queues) (q : QueueId) : Nat := (qs.entries q).length

/-- Whether a queue has no entries. -/
def isEmpty (qs : Queues) (q : QueueId) : Bool := (qs.entries q).isEmpty

/-- The number of entries of a queue that were lost for lack of storage. -/
def dropped (_ : Queues) (_ : QueueId) : Nat := 0

/-! ## Reading after a write -/

theorem length_contents_update (qs : Queues) (q : QueueId) (f : List Entry → List Entry) :
    (qs.update q f).contents.length = qs.contents.length := by
  simp [update]

theorem entries_update_of_ne {q r : QueueId} (h : q ≠ r) (qs : Queues)
    (f : List Entry → List Entry) : (qs.update q f).entries r = qs.entries r := by
  simp [update, entries, h]

theorem entries_update_self {q : QueueId} {qs : Queues} (h : q < qs.contents.length)
    (f : List Entry → List Entry) : (qs.update q f).entries q = f (qs.entries q) := by
  simp [update, entries, h]

theorem entries_push_self {q : QueueId} {qs : Queues} (h : q < qs.contents.length) (e : Entry) :
    (qs.push q e).entries q = qs.entries q ++ [e] :=
  entries_update_self h _

theorem entries_push_of_ne {q r : QueueId} (h : q ≠ r) (qs : Queues) (e : Entry) :
    (qs.push q e).entries r = qs.entries r :=
  entries_update_of_ne h qs _

theorem length_contents_push (qs : Queues) (q : QueueId) (e : Entry) :
    (qs.push q e).contents.length = qs.contents.length :=
  length_contents_update qs q _

theorem entries_pop (qs : Queues) (q : QueueId) :
    (qs.pop q).2.entries q = (qs.entries q).tail := by
  by_cases h : q < qs.contents.length
  · exact entries_update_self h _
  · simp [pop, update, entries, h]

theorem entries_reset (qs : Queues) (q : QueueId) : (qs.reset q).entries q = [] := by
  by_cases h : q < qs.contents.length
  · exact entries_update_self h _
  · simp [reset, update, entries, h]

theorem entries_drain (qs : Queues) (q : QueueId) : (qs.drain q).2.entries q = [] :=
  entries_reset qs q

theorem entries_create (qs : Queues) : qs.create.2.entries qs.create.1 = [] := by
  simp [create, entries]

theorem entries_create_of_lt {q : QueueId} {qs : Queues} (h : q < qs.contents.length) :
    qs.create.2.entries q = qs.entries q := by
  simp [create, entries, List.getElem?_append_left h]

/-- A new queue changes what no queue holds. -/
theorem entries_create_eq (qs : Queues) (q : QueueId) : qs.create.2.entries q = qs.entries q := by
  by_cases h : q < qs.contents.length
  · exact entries_create_of_lt h
  · have hle : qs.contents.length ≤ q := Nat.le_of_not_lt h
    simp only [create, entries, List.getElem?_append_right hle, List.getElem?_eq_none hle]
    cases q - qs.contents.length <;> rfl

end Queues

end StorageTopology.Diagnostics
