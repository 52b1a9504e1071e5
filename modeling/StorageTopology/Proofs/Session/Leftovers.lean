import StorageTopology.Proofs.Session.History
import StorageTopology.Proofs.Session.Report

/-!
# What is left in the queue of a session

A run drains the queue when the engine is done, not before it starts. So the entries that the
engine logged between command lines, that the host pushed, or that were in a shared queue before
are captured with the next command line, ahead of its own messages.

* `results_of_leftovers_differ`: the result of a command line does depend on what was queued before
  it, and so do the records of a report.
* `LeftoverEffect`: in which way it does. Two executions that differ only in what is queued agree
  exactly if the engine fails or the entries read the same; a report decodes the rows of the
  entries ahead of those of the command line.
* `result_of_leftovers`: this holds of all such executions.
-/

namespace StorageTopology.Session

open Diagnostics Engine Lvm

/-- A line that was queued before is in the captured text, and a report takes it for a record. -/
theorem results_of_leftovers_differ :
    (¬ ∀ (k : Sink) (s : Session Scripted) (es es' : List Entry) (qs qs' : Queues)
        (command : String), Attuned k es (s, qs) → Attuned k es' (s, qs') →
          (exec (run command) s qs).1 = (exec (run command) s qs').1) ∧
      ¬ ∀ (k : Sink) (s : Session Scripted) (es es' : List Entry) (qs qs' : Queues)
        (filter : List String), Attuned k es (s, qs) → Attuned k es' (s, qs') →
          (exec (pvs filter) s qs).1 = (exec (pvs filter) s qs').1 := by
  let k : Sink := ⟨Queues.globalId, captureLevel⟩
  let s : Session Scripted := start (.ofReplies []) k
  let row : Entry := Utf8.encode "  /dev/sdz1,vg9,lvm2,a--,7,7"
  have holding : ∀ es : List Entry, Attuned k es (s, ⟨[es]⟩) :=
    fun _ => ⟨rfl, rfl, Nat.one_pos, rfl⟩
  refine ⟨fun h => ?_, fun h => ?_⟩
  · have hsame := h k s [row] [] _ _ "vgs" (holding _) (holding _)
    have hlines := congrArg (fun answer => answer.toOption.map String.length) hsame
    exact absurd hlines (by decide)
  · have hsame := h k s [row] [] _ _ [] (holding _) (holding _)
    have hrecords := congrArg (fun answer => answer.toOption.map List.length) hsame
    exact absurd hrecords (by decide)

/-! ## What leftovers do to a result -/

variable {S : Type} [Engine S] [Reporting S]

/-- Two executions of the session `s`: `es` is queued in the one, `es'` in the other, and the
engine logs and answers the same in both. -/
structure LeftoverEffect (k : Sink) (es es' : List Entry) (s : Session S) (qs qs' : Queues) :
    Prop where
  /-- A command line has the same result exactly if the engine fails, or if the entries read the
  same. If nothing is queued in the one execution, nothing may be queued in the other. -/
  commandLine {command : String} :
    Reporting.reply command s.engine qs' = Reporting.reply command s.engine qs →
      ((exec (run command) s qs).1 = (exec (run command) s qs').1 ↔
        (∃ cause, (Reporting.reply command s.engine qs).answer = .error cause) ∨
          transcript es = transcript es')
  alone {command : String} : es' = [] →
    Reporting.reply command s.engine qs' = Reporting.reply command s.engine qs →
      ((exec (run command) s qs).1 = (exec (run command) s qs').1 ↔
        (∃ cause, (Reporting.reply command s.engine qs).answer = .error cause) ∨ es = [])
  /-- A report that succeeds reads the rows of the entries first, and then its own. -/
  report {r : Request} {read : List Row → Except ParseError Reply} {line : String} :
    r.readRows? = some read → r.line = .ok line →
      Reporting.reply line s.engine qs' = Reporting.reply line s.engine qs →
      (Reporting.reply line s.engine qs).answer = .ok 1 →
        let own := rowsOf (k.kept (Reporting.reply line s.engine qs).records)
        (exec (perform r) s qs).1 = (read (rowsOf es ++ own)).mapError .parse ∧
          (exec (perform r) s qs').1 = (read (rowsOf es' ++ own)).mapError .parse
  /-- One that does not succeed agrees exactly if its command line does. -/
  failedReport {r : Request} {read : List Row → Except ParseError Reply} {line : String} :
    r.readRows? = some read → r.line = .ok line →
      Reporting.reply line s.engine qs' = Reporting.reply line s.engine qs →
      (Reporting.reply line s.engine qs).answer ≠ .ok 1 →
        ((exec (perform r) s qs).1 = (exec (perform r) s qs').1 ↔
          (∃ cause, (Reporting.reply line s.engine qs).answer = .error cause) ∨
            transcript es = transcript es')
  /-- Arguments are refused whatever is queued. -/
  refused {r : Request} {cause : Failure} : r.line = .error cause →
    (exec (perform r) s qs).1 = (exec (perform r) s qs').1
  /-- What one command line logs while it runs is not in the result of the next one, which has its
  own messages only. -/
  next {earlier command : String} :
    let after := (exec (run earlier) s qs).2
    let reply := Reporting.reply command after.1.engine after.2
    (exec (run command) after.1 after.2).1 =
      answerTo command (reply.answer.map Status.ofCode) (k.kept reply.records)

theorem answerTo_eq_iff {command : String} {answer : Except Failure Int32}
    {entries entries' : List Entry} :
    answerTo command (answer.map Status.ofCode) entries =
        answerTo command (answer.map Status.ofCode) entries' ↔
      (∃ cause, answer = .error cause) ∨ transcript entries = transcript entries' := by
  rw [answerTo_ofCode, answerTo_ofCode]
  cases answer with
  | error cause => simp
  | ok code => by_cases hcode : code = 1 <;> simp [hcode]

/-- Only the code 1 is answered with output. -/
theorem answerTo_eq_error {answer : Except Failure Int32} (h : answer ≠ .ok 1) (command : String)
    (entries : List Entry) :
    ∃ cause, answerTo command (answer.map Status.ofCode) entries = .error cause := by
  rw [answerTo_ofCode]
  cases answer with
  | error cause => exact ⟨cause, rfl⟩
  | ok code =>
    have hcode : code ≠ 1 := fun heq => h (congrArg _ heq)
    exact ⟨_, if_neg hcode⟩

theorem answerTo_processed (command : String) (entries : List Entry) :
    answerTo command ((.ok 1 : Except Failure Int32).map Status.ofCode) entries =
      .ok (transcript entries) := rfl

/-- A report that fails with its command line tells two executions apart as that does. -/
theorem reported_error_eq_iff (read : List Row → Except ParseError Reply) {cause cause' : Failure} :
    reported read (.error cause) = reported read (.error cause') ↔
      (.error cause : Except Failure String) = .error cause' := by
  simp [reported, Except.bind]

/-- **What leftovers do**: whatever the engine is and whatever the two queues hold. -/
theorem result_of_leftovers {k : Sink} {es es' : List Entry} {s : Session S} {qs qs' : Queues}
    (h : Attuned k es (s, qs)) (h' : Attuned k es' (s, qs')) :
    LeftoverEffect k es es' s qs qs' := by
  have commandLine : ∀ {command : String},
      Reporting.reply command s.engine qs' = Reporting.reply command s.engine qs →
        ((exec (run command) s qs).1 = (exec (run command) s qs').1 ↔
          (∃ cause, (Reporting.reply command s.engine qs).answer = .error cause) ∨
            transcript es = transcript es') := by
    intro command same
    rw [(exec_run_of_attuned h command).1, (exec_run_of_attuned h' command).1, same,
      answerTo_eq_iff, transcript_append, transcript_append, String.append_left_inj]
  refine ⟨commandLine, ?_, ?_, ?_, ?_, ?_⟩
  · rintro command rfl same
    rw [commandLine same]
    exact or_congr_right transcript_eq_empty_iff
  · intro r read line hread hline same hanswer own
    rw [exec_perform_report hread hline, exec_perform_report hread hline,
      (exec_run_of_attuned h line).1, (exec_run_of_attuned h' line).1, same, hanswer,
      answerTo_processed, answerTo_processed]
    show Except.mapError Failure.parse (read (rows (transcript _))) = _ ∧
      Except.mapError Failure.parse (read (rows (transcript _))) = _
    rw [rows_transcript, rows_transcript, rowsOf_append, rowsOf_append]
    exact ⟨rfl, rfl⟩
  · intro r read line hread hline same hanswer
    rw [exec_perform_report hread hline, exec_perform_report hread hline, ← commandLine same,
      (exec_run_of_attuned h line).1, (exec_run_of_attuned h' line).1, same]
    obtain ⟨cause, hcause⟩ := answerTo_eq_error hanswer line
      (es ++ k.kept (Reporting.reply line s.engine qs).records)
    obtain ⟨cause', hcause'⟩ := answerTo_eq_error hanswer line
      (es' ++ k.kept (Reporting.reply line s.engine qs).records)
    rw [hcause, hcause']
    exact reported_error_eq_iff read
  · intro r cause hline
    rw [exec_perform_refused hline, exec_perform_refused hline]
  · intro earlier command after reply
    have hafter := (exec_run_of_attuned h earlier).2
    exact (exec_run_of_attuned hafter command).1

/-- A host pushes the row of a volume to the queue. The next command line, which logs a line of its
own, has another result than without the row. -/
theorem result_of_leftovers_stale_row :
    let k : Sink := ⟨Queues.globalId, captureLevel⟩
    let s : Session Scripted := start (.ofReplies [⟨[⟨captureLevel, [111]⟩], .ok 1⟩]) k
    let row : Entry := Utf8.encode "  /dev/sdz1,vg9,lvm2,a--,7,7"
    Attuned k [row] (s, ⟨[[row]]⟩) ∧ Attuned k [] (s, ⟨[[]]⟩) ∧
      LeftoverEffect k [row] [] s ⟨[[row]]⟩ ⟨[[]]⟩ ∧
      (exec (run "vgs") s ⟨[[row]]⟩).1 ≠ (exec (run "vgs") s ⟨[[]]⟩).1 := by
  intro k s row
  have stale : Attuned k [row] (s, ⟨[[row]]⟩) := ⟨rfl, rfl, Nat.one_pos, rfl⟩
  have clean : Attuned k [] (s, ⟨[[]]⟩) := ⟨rfl, rfl, Nat.one_pos, rfl⟩
  have heffect := result_of_leftovers stale clean
  refine ⟨stale, clean, heffect, ?_⟩
  rw [ne_eq, heffect.alone rfl rfl]
  rintro (⟨cause, hcause⟩ | hrow)
  · exact absurd hcause (by simp [Reporting.reply, s, start, Engine.install, Scripted.ofReplies])
  · exact absurd hrow (List.cons_ne_nil row [])

end StorageTopology.Session
