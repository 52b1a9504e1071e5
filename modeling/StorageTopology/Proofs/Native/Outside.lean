import StorageTopology.Proofs.Native.Steps
import StorageTopology.Proofs.Session.Script

/-!
# What a session notices of other handles

While a session has the slot, every callback of the library reaches its sink: those that the library
makes on its own and those that it makes for command lines of other handles. Another session also
drains its own queue, which may be the same one. Over a scripted engine both are turns between
requests: `Host.outside` says which turns a step amounts to.

* `callBackAll_eq_logAll`: callbacks are records of the sink, without those that lack a message.
* `after_requestTurns`: the turns of a request that another session carries out.
* `after_outside`: the turns of any step that leaves the slot to the session.
-/

namespace StorageTopology.Native

open Diagnostics Engine Session

/-- What a callback logs, if it has a message. -/
def Callback.record? (c : Callback) : Option LogRecord :=
  c.message.map (⟨c.level, ·⟩)

/-- The records of a reply. -/
def LibraryReply.records (reply : LibraryReply) : List LogRecord :=
  reply.callbacks.filterMap Callback.record?

/-- The same reply from an engine that logs its records itself. -/
def LibraryReply.scripted (reply : LibraryReply) : ScriptedReply :=
  ⟨reply.records, .ok reply.code⟩

variable {l : Library} {owner : UInt64} {k : Sink}

theorem callBack_eq_logAll (hslot : l.slot = some (owner, k)) (c : Callback) (qs : Queues) :
    l.callBack c qs = k.logAll c.record?.toList qs := by
  unfold Library.callBack Callback.record?
  cases c.message with
  | none => rfl
  | some message =>
    rw [hslot]
    show (if k.accepts c.level then k.log ⟨c.level, message⟩ qs else qs) =
      k.log ⟨c.level, message⟩ qs
    unfold Sink.log
    split <;> rfl

/-- **Callbacks are records**, logged to the sink that is in the slot. -/
theorem callBackAll_eq_logAll (hslot : l.slot = some (owner, k)) : ∀ (cs : List Callback)
    (qs : Queues), l.callBackAll cs qs = k.logAll (cs.filterMap Callback.record?) qs
  | [], _ => rfl
  | c :: cs, qs => by
    show l.callBackAll cs (l.callBack c qs) = _
    rw [callBackAll_eq_logAll hslot cs, callBack_eq_logAll hslot, List.filterMap_cons]
    cases c.record? <;> rfl

/-- What the library logs while a command line runs. One with the character zero does not run. -/
def loggedFor (replies : List LibraryReply) (command : String) : List LogRecord :=
  if '\x00' ∈ command.toList then [] else (replies.head?.getD .silent).records

theorem queues_run_eq_logAll (hslot : l.slot = some (owner, k)) (h : Handle) (command : String)
    (qs : Queues) : (l.run h command qs).2.2 = k.logAll (loggedFor l.replies command) qs := by
  rw [Library.queues_run, callBackAll_eq_logAll hslot]
  unfold Library.callbacks loggedFor
  split <;> rfl

/-! ## The turns of another session -/

/-- A command line of a session with the queue `q`: the library logs, and the queue is drained. -/
def lineTurns (q : QueueId) (replies : List LibraryReply) (command : String) : List Turn :=
  [.log (loggedFor replies command), .drain q]

/-- The first command line of a request of a session with the queue `q`. -/
def firstTurns (q : QueueId) (replies : List LibraryReply) (r : Lvm.Request) : List Turn :=
  match r.line with
  | .ok line => lineTurns q replies line
  | .error _ => []

/-- Whether the first command line of a request succeeds. -/
def succeeds (replies : List LibraryReply) (r : Lvm.Request) : Bool :=
  match r.line with
  | .ok line => '\x00' ∉ line.toList && (replies.head?.getD .silent).code = 1
  | .error _ => false

/-- A request of a session with the queue `q`: its first command line and, if that succeeds, the
report that may follow. -/
def requestTurns (q : QueueId) (replies : List LibraryReply) (r : Lvm.Request) : List Turn :=
  firstTurns q replies r ++
    match r.followUp? with
    | some next => if succeeds replies r then firstTurns q replies.tail next else []
    | none => []

variable {g : Stage}

theorem log_eq_logAll (hsink : g.session.engine.sink = some k) (records : List LogRecord)
    (qs : Queues) : g.session.engine.log records qs = k.logAll records qs := by
  unfold Scripted.log
  rw [hsink]

section OtherSession

variable (hslot : l.slot = some (owner, k)) (hsink : g.session.engine.sink = some k)
include hslot hsink

theorem after_lineTurns (h : Handle) (q : QueueId) (command : String) :
    g.after (lineTurns q l.replies command) =
      { g with queues := (exec (run command) (⟨⟨l, h⟩, q⟩ : Session Attached) g.queues).2.2 } := by
  show { g with queues := ((g.session.engine.log _ g.queues).drain q).2 } = _
  rw [log_eq_logAll hsink, ← queues_run_eq_logAll hslot h, exec_run]
  rfl

theorem after_firstTurns (h : Handle) (q : QueueId) (r : Lvm.Request) :
    g.after (firstTurns q l.replies r) =
      { g with
        queues := (exec (runRequest r) (⟨⟨l, h⟩, q⟩ : Session Attached) g.queues).2.2 } := by
  unfold firstTurns
  rw [exec_runRequest]
  cases r.line with
  | error cause => rfl
  | ok line => exact after_lineTurns hslot hsink h q line

end OtherSession

/-- If the first command line of a request succeeds, it used up one reply. -/
theorem exec_runRequest_of_succeeds {r : Lvm.Request} (hok : succeeds l.replies r) (h : Handle)
    (q : QueueId) (qs : Queues) :
    ∃ output l' qs', exec (runRequest r) (⟨⟨l, h⟩, q⟩ : Session Attached) qs =
        (.ok output, ⟨⟨l', h⟩, q⟩, qs') ∧
      l'.replies = l.replies.tail ∧ l'.slot = l.slot := by
  unfold succeeds at hok
  split at hok
  · rename_i line hline
    simp only [Bool.and_eq_true, decide_eq_true_eq] at hok
    rw [exec_runRequest_of_line hline, Host.exec_run_of_nulFree hok.1, hok.2]
    exact ⟨_, _, _, rfl, rfl, rfl⟩
  · exact absurd hok (by simp)

theorem exec_runRequest_of_not_succeeds {r : Lvm.Request} (hnot : ¬ succeeds l.replies r)
    (h : Handle) (q : QueueId) (qs : Queues) :
    ∃ cause, (exec (runRequest r) (⟨⟨l, h⟩, q⟩ : Session Attached) qs).1 = .error cause := by
  unfold succeeds at hnot
  rw [exec_runRequest]
  cases hline : r.line with
  | error cause => exact ⟨cause, rfl⟩
  | ok line =>
    simp only [hline, Bool.and_eq_true, decide_eq_true_eq, not_and] at hnot
    by_cases hnul : '\x00' ∈ line.toList
    · simp only [Host.exec_run_of_nul hnul]
      exact ⟨_, rfl⟩
    · simp only [Host.exec_run_of_nulFree hnul]
      exact ⟨_, (answerTo_ofCode line (.ok _) _).trans (if_neg (hnot hnul))⟩

/-- **What a request of another session does to the queues**, its turns do. -/
theorem after_requestTurns (hslot : l.slot = some (owner, k))
    (hsink : g.session.engine.sink = some k) (h : Handle) (q : QueueId) (r : Lvm.Request) :
    g.after (requestTurns q l.replies r) =
      { g with queues := (exec (perform r) (⟨⟨l, h⟩, q⟩ : Session Attached) g.queues).2.2 } := by
  unfold requestTurns
  rw [Stage.after_append, after_firstTurns hslot hsink h q r]
  by_cases hok : succeeds l.replies r
  · obtain ⟨output, l', qs', hfirst, hreplies, hslot'⟩ :=
      exec_runRequest_of_succeeds hok h q g.queues
    cases hnext : r.followUp? with
    | none =>
      rw [exec_perform, carryOut_of_single hnext]
      rfl
    | some next =>
      simp only [if_pos hok, exec_perform_of_followUp hfirst hnext, ← hreplies]
      rw [hfirst]
      exact after_firstTurns (g := { g with queues := qs' }) (hslot'.trans hslot) hsink h q next
  · obtain ⟨cause, herror⟩ := exec_runRequest_of_not_succeeds hok h q g.queues
    have hstop : exec (runRequest r) (⟨⟨l, h⟩, q⟩ : Session Attached) g.queues =
        (.error cause, (exec (runRequest r) (⟨⟨l, h⟩, q⟩ : Session Attached) g.queues).2) :=
      Prod.ext herror rfl
    rw [exec_perform_of_error hstop]
    cases r.followUp? with
    | none => rfl
    | some next =>
      simp only [if_neg hok]
      rfl

/-! ## The turns of a step -/

/-- What a step amounts to for a session that has the slot and that the step is not made for. -/
def Host.outside (p : Host) (replies : List LibraryReply) : Step → List Turn
  | .callBack c => [.log c.record?.toList]
  | .run _ command => [.log (loggedFor replies command)]
  | .perform i r =>
    match p.wrapped? i with
    | some (_, q) => requestTurns q replies r
    | none => []
  | .drain q => [.drain q]
  | _ => []

/-- **What a step does to the queues**, its turns do, if it makes no install. -/
theorem after_outside {p p' : Host} {replies : List LibraryReply} {s : Step} {a : Answer}
    (hstep : p.stepWith replies s = some (a, p')) (hinstall : p.install? s = none)
    (hslot : p.library.slot = some (owner, k)) (hsink : g.session.engine.sink = some k)
    (hqueues : p.queues = g.queues) :
    g.after (p.outside replies s) = { g with queues := p'.queues } := by
  have same : g.after [] = { g with queues := p.queues } := by
    rw [hqueues]
    rfl
  let ready : Library := { p.library with replies := replies }
  cases Host.taken_of_step hstep with
  | callBack c =>
    show { g with queues := g.session.engine.log _ g.queues } = _
    rw [log_eq_logAll hsink, ← hqueues]
    exact congrArg (Stage.mk _ _) (callBack_eq_logAll hslot c _).symm
  | @run i h command hheld =>
    show { g with queues := g.session.engine.log _ g.queues } = _
    rw [log_eq_logAll hsink, ← hqueues]
    exact congrArg (Stage.mk _ _) (queues_run_eq_logAll (l := ready) hslot h command _).symm
  | @perform i h q r hheld =>
    have hheld : p.handles[i]? = some (.wrapped h q) := hheld
    have hwrapped : p.wrapped? i = some (h, q) := by simp [Host.wrapped?, hheld]
    simp only [Host.outside, hwrapped, Host.perform_eq, hqueues]
    exact after_requestTurns (l := ready) hslot hsink h q r
  | drain present =>
    rw [hqueues]
    rfl
  | install => exact absurd hinstall (by simp [Host.install?])
  | wrapOver => exact absurd hinstall (by simp [Host.install?])
  | wrapOwn => exact absurd hinstall (by simp [Host.install?])
  | _ => exact same

end StorageTopology.Native
