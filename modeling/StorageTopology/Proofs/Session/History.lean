import StorageTopology.Proofs.Engine.Reporting
import StorageTopology.Proofs.Session.Activity

/-!
# The history of a session

A session over a reporting engine runs command lines; between them its engine may log on its own
and the host may use the queue of the session (`Event`). `Event.waiting` follows the contents of
the queue through a history without the session: it reads the events only.

* `Attuned`: the invariant. The engine still logs to the sink of the session, and the queue holds
  what the history leaves waiting. `attuned_follow` is the step, `attuned_after` the run.
* `exec_run_of_attuned`: one run drains the queue, and captures what was waiting followed by what
  the sink keeps of the engine's records.
* `run_after_history`: so does every run in every history of a session, however it was built.
-/

namespace StorageTopology.Session

open Diagnostics Engine

variable {S : Type} [Engine S]

/-- A session as it is built: on a queue of its own, or over a sink of the host. -/
inductive Opened (engine : S) : Sink → Session S → Queues → Prop where
  | own (qs : Queues) :
      Opened engine ⟨qs.create.1, captureLevel⟩ (startOwn engine qs).1 (startOwn engine qs).2
  | hosted {k : Sink} {qs : Queues} (h : k.queue < qs.contents.length) :
      Opened engine k (start engine k) qs

/-- What happens to a session: a run, a record that its engine logs between runs, and what the
host does to its queue. -/
inductive Event where
  | run (command : String)
  | log (record : LogRecord)
  | push (entry : Entry)
  | pop

/-- What waits in the queue after an event. -/
def Event.waiting (k : Sink) (es : List Entry) : Event → List Entry
  | .run _ => []
  | .log r => es ++ k.kept [r]
  | .push e => es ++ [e]
  | .pop => es.tail

variable [Reporting S]

/-- The session and the queues after an event. -/
def follow (st : Session S × Queues) : Event → Session S × Queues
  | .run command => (exec (run command) st.1 st.2).2
  | .log r =>
    match Reporting.sink st.1.engine with
    | some k => (st.1, k.log r st.2)
    | none => st
  | .push e => (st.1, st.2.push st.1.queue e)
  | .pop => (st.1, (st.2.pop st.1.queue).2)

/-- The session and the queues after a history. -/
def after (st : Session S × Queues) (history : List Event) : Session S × Queues :=
  history.foldl follow st

/-- The engine logs to the sink `k`, whose queue is the one of the session and holds `es`. -/
structure Attuned (k : Sink) (es : List Entry) (st : Session S × Queues) : Prop where
  sink : Reporting.sink st.1.engine = some k
  queue : st.1.queue = k.queue
  present : k.queue < st.2.contents.length
  entries : st.2.entries k.queue = es

theorem Opened.attuned {engine : S} {k : Sink} {s : Session S} {qs : Queues}
    (h : Opened engine k s qs) : Attuned k (qs.entries k.queue) (s, qs) := by
  cases h with
  | own qs =>
    refine ⟨Reporting.sink_install _ _, rfl, ?_, rfl⟩
    show qs.create.1 < qs.create.2.contents.length
    simp [Queues.create]
  | hosted hk => exact ⟨Reporting.sink_install _ _, rfl, hk, rfl⟩

/-! ## One run -/

/-- **One run of a session whose queue holds `es`**: the queue is drained, and what is captured
is `es` followed by what the sink keeps of the records of this command line. -/
theorem exec_run_of_attuned {k : Sink} {es : List Entry} {s : Session S} {qs : Queues}
    (h : Attuned k es (s, qs)) (command : String) :
    (exec (run command) s qs).1 =
        answerTo command ((Reporting.reply command s.engine qs).answer.map Status.ofCode)
          (es ++ k.kept (Reporting.reply command s.engine qs).records) ∧
      Attuned k [] (exec (run command) s qs).2 := by
  have hsink : Reporting.sink s.engine = some k := h.sink
  have hqueue : s.queue = k.queue := h.queue
  have hqs := Reporting.queues_run hsink command qs
  have hlog : (Engine.run command s.engine qs).queues.entries s.queue
      = es ++ k.kept (Reporting.reply command s.engine qs).records := by
    rw [hqs, hqueue, Sink.entries_logAll h.present, h.entries]
  rw [exec_run]
  refine ⟨?_, ?_, hqueue, ?_, ?_⟩
  · rw [hlog, Reporting.answer_run]
  · show Reporting.sink (Engine.run command s.engine qs).engine = some k
    rw [Reporting.sink_run, hsink]
  · show k.queue < ((Engine.run command s.engine qs).queues.drain s.queue).2.contents.length
    rw [Queues.drain, Queues.length_contents_update, hqs, Sink.length_contents_logAll]
    exact h.present
  · show ((Engine.run command s.engine qs).queues.drain s.queue).2.entries k.queue = []
    rw [hqueue]
    exact Queues.entries_drain _ _

/-! ## The invariant along a history -/

theorem attuned_follow {k : Sink} {es : List Entry} {st : Session S × Queues}
    (h : Attuned k es st) (e : Event) : Attuned k (e.waiting k es) (follow st e) := by
  obtain ⟨s, qs⟩ := st
  obtain ⟨hsink, hqueue, hpresent, hentries⟩ := id h
  simp only at hsink hqueue hpresent hentries
  cases e with
  | run command => exact (exec_run_of_attuned h command).2
  | log r =>
    simp only [follow, hsink]
    refine ⟨hsink, hqueue, ?_, ?_⟩
    · rw [Sink.length_contents_log]
      exact hpresent
    · rw [Sink.entries_log hpresent, hentries]
      rfl
  | push e =>
    refine ⟨hsink, hqueue, ?_, ?_⟩
    · show k.queue < (qs.push s.queue e).contents.length
      rw [Queues.length_contents_push]
      exact hpresent
    · show (qs.push s.queue e).entries k.queue = es ++ [e]
      rw [hqueue, Queues.entries_push_self hpresent, hentries]
  | pop =>
    refine ⟨hsink, hqueue, ?_, ?_⟩
    · show k.queue < (qs.pop s.queue).2.contents.length
      rw [Queues.pop, Queues.length_contents_update]
      exact hpresent
    · show (qs.pop s.queue).2.entries k.queue = es.tail
      rw [hqueue, Queues.entries_pop, hentries]

theorem attuned_after {k : Sink} : ∀ (history : List Event) {es : List Entry}
    {st : Session S × Queues}, Attuned k es st →
      Attuned k (history.foldl (Event.waiting k) es) (after st history)
  | [], _, _, h => h
  | e :: history, _, _, h => attuned_after history (attuned_follow h e)

/-! ## Every run of every history -/

/-- **What a run captures, whatever came before it**: after any history of a session, the queue
holds what the history leaves waiting. A run then drains the queue, whether the engine succeeds,
reports a bad status or fails; the captured text is made of the entries that were waiting and
then of the messages of this command line at the level of the sink, one line each. The text is
the answer exactly if the code is 1; another code is a failure that carries the text, and a
failure of the engine is passed on. -/
theorem run_after_history {engine : S} {k : Sink} {s₀ : Session S} {qs₀ : Queues}
    (h : Opened engine k s₀ qs₀) (history : List Event) (command : String) :
    let s := (after (s₀, qs₀) history).1
    let qs := (after (s₀, qs₀) history).2
    let reply := Reporting.reply command s.engine qs
    let messages := (reply.records.filter fun r => r.level = k.level).map (·.message)
    let text := String.join ((qs.entries s.queue ++ messages).map fun e => Utf8.lossy e ++ "\n")
    let ran := exec (run command) s qs
    qs.entries s.queue = history.foldl (Event.waiting k) (qs₀.entries s₀.queue) ∧
      ran.2.1.queue = s₀.queue ∧ ran.2.2.entries s₀.queue = [] ∧
      ran.1 = match reply.answer with
        | .error cause => .error cause
        | .ok code =>
          if code = 1 then .ok text else .error (.engine command (.ofCode code) text) := by
  intro s qs reply messages text ran
  have hopened := h.attuned
  have hk : s₀.queue = k.queue := hopened.queue
  have hnow : Attuned k (history.foldl (Event.waiting k) (qs₀.entries k.queue)) (s, qs) :=
    attuned_after history hopened
  have hqueue : s.queue = k.queue := hnow.queue
  obtain ⟨hanswer, hdrained⟩ := exec_run_of_attuned hnow command
  refine ⟨?_, ?_, ?_, ?_⟩
  · rw [hqueue, hk]
    exact hnow.entries
  · rw [hk]
    exact hdrained.queue
  · rw [hk]
    exact hdrained.entries
  · have htext : text = transcript (history.foldl (Event.waiting k) (qs₀.entries k.queue)
        ++ k.kept reply.records) := by
      rw [← hnow.entries, ← hqueue]
      rfl
    rw [htext]
    exact hanswer.trans (answerTo_ofCode command reply.answer _)

/-- A session on the queue of the process. The host queues `a`, a run takes it with its own `b`,
the engine logs `c` on its own, and the next run fails with `c` and its own `d`. -/
theorem run_after_history_scripted :
    let engine : Scripted := .ofReplies [⟨[⟨4, [98]⟩], .ok 1⟩, ⟨[⟨7, [120]⟩, ⟨4, [100]⟩], .ok 5⟩]
    let opened : Session Scripted × Queues := (start engine ⟨Queues.globalId, 4⟩, .initial)
    let st := after opened [.push [97], .run "pvs", .log ⟨4, [99]⟩]
    Opened engine ⟨Queues.globalId, 4⟩ opened.1 opened.2 ∧
      (exec (run "vgs") st.1 st.2).1 = .error (.engine "vgs" .commandFailed "c\nd\n") := by
  intro engine opened st
  have hopened : Opened engine ⟨Queues.globalId, 4⟩ opened.1 opened.2 := .hosted (by decide)
  have hrun := run_after_history hopened [.push [97], .run "pvs", .log ⟨4, [99]⟩] "vgs"
  exact ⟨hopened, hrun.2.2.2.trans rfl⟩

end StorageTopology.Session
