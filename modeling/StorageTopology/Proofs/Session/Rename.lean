import StorageTopology.Proofs.Lvm.CommandLine
import StorageTopology.Proofs.Session.History

/-!
# Renames

A rename is two command lines. The first one renames; if it succeeds, the second one asks for a
report on the new name, and the first record of that report is the answer. Each of the two drains
the queue when the engine is done, so the report starts with an empty queue: what waited before the
rename and what the rename logged went with the output of the first command line, which is not read.

* `ReadsBack`: how a record is read back. `readsBack_followed`: two requests, whatever they are.
* `readsBack_renames`: **both renames read back their own report**.
-/

namespace StorageTopology

namespace Lvm

/-- The first record of a report, if it has one. -/
def firstRecord {α : Type} (missing : OperationError) :
    Except ParseError (List α) → Except Failure α
  | .error cause => .error (.parse cause)
  | .ok (a :: _) => .ok a
  | .ok [] => .error (.operation missing)

end Lvm

namespace Session

open Diagnostics Engine Lvm

variable {S α : Type}

/-! ## Reading the first record -/

/-- Read the first record of a report. -/
def readFirst (parse : String → Except ParseError (List α)) (missing : OperationError)
    (output : String) : Activity S α := do
  match ← readReport parse output with
  | a :: _ => pure a
  | [] => throw (.operation missing)

theorem answers_readFirst (parse : String → Except ParseError (List α))
    (missing : OperationError) (output : String) :
    Answers (readFirst parse missing output : Activity S α)
      (firstRecord missing (parse output)) := by
  intro s qs
  unfold readFirst readReport
  cases parse output with
  | error cause => rfl
  | ok records => cases records <;> rfl

variable [Engine S]

theorem vgrename_eq (old new : String) :
    (vgrename old new : Activity S VolumeGroup) =
      runRequest (.vgrename old new) >>= fun _ => runRequest (.vgs [new]) >>=
        readFirst VolumeGroup.parseReport (.missingAfterRename "vg" new) := by
  unfold vgrename vgs readFirst
  simp only [bind_assoc]
  refine bind_congr fun _ => bind_congr fun output => bind_congr fun groups => ?_
  cases groups <;> rfl

theorem lvrename_eq (vg old new : String) :
    (lvrename vg old new : Activity S LogicalVolume) =
      runRequest (.lvrename vg old new) >>= fun _ => runRequest (.lvs [volumeWord vg new]) >>=
        readFirst LogicalVolume.parseReport (.missingAfterRename "lv" (volumeWord vg new)) := by
  unfold lvrename lvs readFirst
  simp only [bind_assoc]
  refine bind_congr fun _ => bind_congr fun output => bind_congr fun volumes => ?_
  cases volumes <;> rfl

/-! ## Two command lines -/

/-- The first command line fails. -/
theorem exec_followed_of_error {r next : Request} {rename : String} (hr : r.line = .ok rename)
    {reading : String → Activity S α} {read : String → Except Failure α}
    (hreading : ∀ output, Answers (reading output) (read output)) {s : Session S} {qs : Queues}
    {cause : Failure} (hfirst : (exec (run rename) s qs).1 = .error cause) :
    exec (runRequest r >>= fun _ => runRequest next >>= reading) s qs =
      (.error cause, (exec (run rename) s qs).2) := by
  rw [exec_followed hreading, exec_runRequest_of_line hr]
  revert hfirst
  rcases exec (run rename) s qs with ⟨answer, after⟩
  rintro rfl
  rfl

/-- To keep the command lines changes nothing of what an engine reports. -/
instance {S : Type} [Engine S] [Reporting S] : Reporting (Recorded S) where
  sink e := Reporting.sink e.engine
  reply command e qs := Reporting.reply command e.engine qs
  sink_install k e := Reporting.sink_install k e.engine
  sink_run command e qs := Reporting.sink_run command e.engine qs
  answer_run command e qs := Reporting.answer_run command e.engine qs
  queues_run h command qs := Reporting.queues_run h command qs

variable [Reporting S]

/-- What is read back, by what the engine does at the command line `report`: its failure, a bad
status, or what `read` makes of the messages of this command line. -/
def answerBack (k : Sink) (report : String) (read : String → Except Failure α)
    (reply : ScriptedReply) : Except Failure α :=
  match reply.answer with
  | .error cause => .error cause
  | .ok code =>
    let output := transcript (k.kept reply.records)
    if code = 1 then read output else .error (.engine report (.ofCode code) output)

theorem answerTo_bind (k : Sink) (report : String) (read : String → Except Failure α)
    (reply : ScriptedReply) :
    (answerTo report (reply.answer.map Status.ofCode) (k.kept reply.records)).bind read =
      answerBack k report read reply := by
  rw [answerTo_ofCode]
  unfold answerBack
  cases reply.answer with
  | error cause => rfl
  | ok code =>
    simp only
    split <;> rfl

/-- How `act` renames by the command line `rename` and reads a record back by `report`, in a session
whose engine keeps the command lines that it gets. -/
structure ReadsBack (act : Activity (Recorded S) α) (rename report : String)
    (read : String → Except Failure α) (k : Sink) (s : Session (Recorded S)) (qs : Queues) :
    Prop where
  /-- If the rename fails, its failure is the answer, and the engine gets nothing else. -/
  failed {cause : Failure} : (exec (run rename) s qs).1 = .error cause →
    (exec act s qs).1 = .error cause ∧
      (exec act s qs).2.1.engine.commands = s.engine.commands ++ [rename]
  /-- If it succeeds, the engine gets the report and nothing else, and the answer is read from what
  it logs then. -/
  renamed {output : String} : (exec (run rename) s qs).1 = .ok output →
    let between := (exec (run rename) s qs).2
    (exec act s qs).1 =
        answerBack k report read (Reporting.reply report between.1.engine between.2) ∧
      (exec act s qs).2.1.engine.commands = s.engine.commands ++ [rename, report]
  /-- Another session over the same sink, with anything in its queue and anything logged by its
  rename, has the same answer if its engine does the same at the report. -/
  alone {es' : List Entry} {s' : Session (Recorded S)} {qs' : Queues} {output output' : String} :
    Attuned k es' (s', qs') → (exec (run rename) s qs).1 = .ok output →
      (exec (run rename) s' qs').1 = .ok output' →
      let between := (exec (run rename) s qs).2
      let between' := (exec (run rename) s' qs').2
      Reporting.reply report between'.1.engine between'.2 =
          Reporting.reply report between.1.engine between.2 →
        (exec act s' qs').1 = (exec act s qs).1
  /-- Nothing is left in the queue, however it ends. -/
  drained : (exec act s qs).2.1.queue = s.queue ∧ (exec act s qs).2.2.entries s.queue = []

section Followed

variable {r next : Request} {rename report : String} {reading : String → Activity (Recorded S) α}
  {read : String → Except Failure α} {k : Sink} {es : List Entry} {s : Session (Recorded S)}
  {qs : Queues}

/-- The first command line succeeds, so the queue is empty when the second one starts. -/
theorem exec_followed_of_ok (h : Attuned k es (s, qs)) (hr : r.line = .ok rename)
    (hnext : next.line = .ok report) (hreading : ∀ output, Answers (reading output) (read output))
    {output : String} (hfirst : (exec (run rename) s qs).1 = .ok output) :
    let between := (exec (run rename) s qs).2
    exec (runRequest r >>= fun _ => runRequest next >>= reading) s qs =
      (answerBack k report read (Reporting.reply report between.1.engine between.2),
        (exec (run report) between.1 between.2).2) := by
  have hbetween : Attuned k [] (exec (run rename) s qs).2 := (exec_run_of_attuned h rename).2
  rw [exec_followed hreading, exec_runRequest_of_line hr]
  revert hfirst hbetween
  rcases exec (run rename) s qs with ⟨answer, s', qs'⟩
  rintro rfl hbetween
  simp only
  rw [exec_runRequest_of_line hnext, (exec_run_of_attuned hbetween report).1, List.nil_append,
    answerTo_bind]

/-- **Two requests read back the report of the second.** -/
theorem readsBack_followed (h : Attuned k es (s, qs)) (hr : r.line = .ok rename)
    (hnext : next.line = .ok report)
    (hreading : ∀ output, Answers (reading output) (read output)) :
    ReadsBack (runRequest r >>= fun _ => runRequest next >>= reading) rename report read k s
      qs := by
  have hfirst := (exec_run_of_attuned h rename).2
  have hcommands := commands_run rename s qs
  refine ⟨fun hfailed => ?_, fun hrenamed => ?_, fun h' hrenamed hrenamed' same => ?_, ?_⟩
  · rw [exec_followed_of_error hr hreading hfailed]
    exact ⟨rfl, hcommands⟩
  · rw [exec_followed_of_ok h hr hnext hreading hrenamed]
    refine ⟨rfl, ?_⟩
    rw [commands_run, hcommands, List.append_assoc]
    rfl
  · rw [exec_followed_of_ok h hr hnext hreading hrenamed,
      exec_followed_of_ok h' hr hnext hreading hrenamed', same]
  · have hqueue : s.queue = k.queue := h.queue
    have hlast :
        Attuned k [] (exec (runRequest r >>= fun _ => runRequest next >>= reading) s qs).2 := by
      cases hanswer : (exec (run rename) s qs).1 with
      | error cause =>
        rw [exec_followed_of_error hr hreading hanswer]
        exact hfirst
      | ok output =>
        rw [exec_followed_of_ok h hr hnext hreading hanswer]
        exact (exec_run_of_attuned hfirst report).2
    rw [hqueue]
    exact ⟨hlast.queue, hlast.entries⟩

/-- A request whose arguments are acceptable and the report that follows it. -/
theorem readsBack_of_followUp (h : Attuned k es (s, qs)) (hr : r.Acceptable)
    (hnext : r.followUp? = some next) (parse : String → Except ParseError (List α))
    (missing : OperationError) :
    ReadsBack (runRequest r >>= fun _ => runRequest next >>= readFirst parse missing :
        Activity (Recorded S) α)
      (commandLine r.plainWords) (commandLine next.plainWords)
      (fun output => firstRecord missing (parse output)) k s qs :=
  readsBack_followed h (Request.line_eq_ok_iff.mpr ⟨hr, rfl⟩)
    (Request.line_eq_ok_iff.mpr ⟨(hr.followUp hnext).1, rfl⟩) (answers_readFirst parse missing)

end Followed

/-- **A rename reads back its own report**, for all arguments that are words. A group is reported on
by its new name, a volume by its group and its new name. -/
theorem readsBack_renames {k : Sink} {es : List Entry} {s : Session (Recorded S)} {qs : Queues}
    (h : Attuned k es (s, qs)) :
    (∀ old new : String, isWord old → isWord new →
      ReadsBack (vgrename old new) (commandLine ["vgrename", old, new])
        (commandLine (Request.vgs [new]).plainWords)
        (fun output => firstRecord (.missingAfterRename "vg" new) (VolumeGroup.parseReport output))
        k s qs) ∧
      ∀ vg old new : String, isWord vg → isWord old → isWord new →
        ReadsBack (lvrename vg old new) (commandLine ["lvrename", vg, old, new])
          (commandLine (Request.lvs [vg ++ "/" ++ new]).plainWords)
          (fun output => firstRecord (.missingAfterRename "lv" (vg ++ "/" ++ new))
            (LogicalVolume.parseReport output))
          k s qs := by
  refine ⟨fun old new hold hnew => ?_, fun vg old new hvg hold hnew => ?_⟩
  · have hwords : (Request.vgrename old new).Acceptable :=
      List.forall_mem_cons.mpr ⟨hold, List.forall_mem_singleton.mpr hnew⟩
    rw [vgrename_eq]
    exact readsBack_of_followUp h hwords rfl _ _
  · have hwords : (Request.lvrename vg old new).Acceptable :=
      List.forall_mem_cons.mpr
        ⟨hvg, List.forall_mem_cons.mpr ⟨hold, List.forall_mem_singleton.mpr hnew⟩⟩
    rw [lvrename_eq]
    exact readsBack_of_followUp h hwords rfl _ _

/-- A row of the group waits in the queue, and the rename logs another one. The record that is
answered is the one that the report logs. -/
theorem readsBack_renames_stale :
    let k : Sink := ⟨Queues.globalId, captureLevel⟩
    let row (text : String) : ScriptedReply := ⟨[⟨captureLevel, Utf8.encode text⟩], .ok 1⟩
    let s : Session (Recorded Scripted) :=
      start ⟨.ofReplies [row "data,9,9,wz--n-,9,9", row "  data,1,0,wz--n-,100,40"], []⟩ k
    let qs : Queues := ⟨[[Utf8.encode "data,7,7,wz--n-,7,7"]]⟩
    let group : VolumeGroup :=
      ⟨"data", ⟨true, true, false, false, .normal, false, false⟩, 100, 40, 1, 0⟩
    Attuned k [Utf8.encode "data,7,7,wz--n-,7,7"] (s, qs) ∧ isWord "vg0" ∧ isWord "data" ∧
      (exec (vgrename "vg0" "data") s qs).1 = .ok group ∧
        (exec (vgrename "vg0" "data") s qs).2.1.engine.commands =
          ["vgrename vg0 data", "vgs --noheadings --units b --nosuffix --separator , -o " ++
            "vg_name,pv_count,lv_count,vg_attr,vg_size,vg_free data"] := by
  intro k row s qs group
  have hattuned : Attuned k [Utf8.encode "data,7,7,wz--n-,7,7"] (s, qs) :=
    ⟨rfl, rfl, Nat.one_pos, rfl⟩
  have hold : isWord "vg0" := by decide
  have hnew : isWord "data" := by decide
  have hback := (readsBack_renames hattuned).1 "vg0" "data" hold hnew
  have hrenamed : (exec (run (commandLine ["vgrename", "vg0", "data"])) s qs).1 = .ok _ := rfl
  obtain ⟨hanswer, hcommands⟩ := hback.renamed hrenamed
  have hgroup : VolumeGroup.parseReport (transcript [Utf8.encode "  data,1,0,wz--n-,100,40"]) =
      .ok [group] := by decide +revert
  have hlines : [commandLine ["vgrename", "vg0", "data"],
      commandLine (Request.vgs ["data"]).plainWords] = ["vgrename vg0 data",
        "vgs --noheadings --units b --nosuffix --separator , -o " ++
          "vg_name,pv_count,lv_count,vg_attr,vg_size,vg_free data"] := by decide
  refine ⟨hattuned, hold, hnew, hanswer.trans ?_, hcommands.trans hlines⟩
  exact congrArg (firstRecord (.missingAfterRename "vg" "data")) hgroup

end Session

end StorageTopology
