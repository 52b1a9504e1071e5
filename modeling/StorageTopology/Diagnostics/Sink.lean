import StorageTopology.Diagnostics.Queue

/-!
# Sinks

The engine logs records with a level (`LogRecord`) through a sink (`CaptureSink`). A sink keeps
the messages of one level in one queue and discards all others.
-/

namespace StorageTopology.Diagnostics

/-- What the engine logs at one call. -/
structure LogRecord where
  level : Int32
  message : Entry
  deriving DecidableEq, Repr

/-- The queue that a sink feeds, and the level that it keeps. -/
structure Sink where
  queue : QueueId
  level : Int32
  deriving DecidableEq, Repr

/-- The level at which the engine prints results. -/
def captureLevel : Int32 := 4

namespace Sink

/-- Whether the sink keeps messages of a level. -/
def accepts (s : Sink) (level : Int32) : Bool := level = s.level

/-- Take a record: keep its message or discard it. -/
def log (s : Sink) (r : LogRecord) (qs : Queues) : Queues :=
  if s.accepts r.level then qs.push s.queue r.message else qs

/-- Take records in order. -/
def logAll (s : Sink) (rs : List LogRecord) (qs : Queues) : Queues :=
  rs.foldl (fun qs r => s.log r qs) qs

/-- The messages that a sink keeps of records. -/
def kept (s : Sink) (rs : List LogRecord) : List Entry :=
  (rs.filter fun r => s.accepts r.level).map (·.message)

theorem kept_append (s : Sink) (rs rs' : List LogRecord) :
    s.kept (rs ++ rs') = s.kept rs ++ s.kept rs' := by
  simp [kept]

/-! ## What a record does to the queues -/

theorem length_contents_log (s : Sink) (r : LogRecord) (qs : Queues) :
    (s.log r qs).contents.length = qs.contents.length := by
  unfold log
  split
  · exact qs.length_contents_push s.queue r.message
  · rfl

theorem length_contents_logAll (s : Sink) (rs : List LogRecord) (qs : Queues) :
    (s.logAll rs qs).contents.length = qs.contents.length := by
  induction rs generalizing qs with
  | nil => rfl
  | cons r rs ih => exact (ih (s.log r qs)).trans (s.length_contents_log r qs)

theorem entries_log_of_ne {s : Sink} {q : QueueId} (h : s.queue ≠ q) (r : LogRecord)
    (qs : Queues) : (s.log r qs).entries q = qs.entries q := by
  unfold log
  split
  · exact Queues.entries_push_of_ne h qs r.message
  · rfl

theorem entries_log {s : Sink} {qs : Queues} (h : s.queue < qs.contents.length) (r : LogRecord) :
    (s.log r qs).entries s.queue = qs.entries s.queue ++ s.kept [r] := by
  unfold log kept
  split <;> simp_all [Queues.entries_push_self]

theorem entries_logAll {s : Sink} {qs : Queues} (h : s.queue < qs.contents.length)
    (rs : List LogRecord) : (s.logAll rs qs).entries s.queue = qs.entries s.queue ++ s.kept rs := by
  induction rs generalizing qs with
  | nil => simp [logAll, kept]
  | cons r rs ih =>
    have hlog : s.queue < (s.log r qs).contents.length := by rwa [length_contents_log]
    change (s.logAll rs (s.log r qs)).entries s.queue = _
    rw [ih hlog, entries_log h, List.append_assoc]
    simp [kept, List.filter_cons]
    split <;> rfl

end Sink

end StorageTopology.Diagnostics
