import StorageTopology.Proofs.Lvm.Rows
import StorageTopology.Proofs.Session.Perform

/-!
# Reports of a session

A report is one command line whose captured output is read row by row. The rows of a text are those
of its lines, so the rows of captured output are those of the captured entries, one after another.

* `rows_transcript`: the rows of captured output.
* `exec_perform_report`: a request for a report runs its command line, and what it answers is read
  from the rows of the output and from nothing else (`Request.readRows?`).
-/

namespace StorageTopology.Lvm

/-- How the rows of a report are read, for a request that asks for one. -/
def Request.readRows? : Request → Option (List Row → Except ParseError Reply)
  | .pvs _ => some fun rs => (rs.mapM PhysicalVolume.ofRow).map .physicalVolumes
  | .vgs _ => some fun rs => (rs.mapM VolumeGroup.ofRow).map .volumeGroups
  | .lvs _ => some fun rs => (rs.mapM LogicalVolume.ofRow).map .logicalVolumes
  | _ => none

/-- A report is read from the rows of its output. -/
theorem Request.read_of_readRows? {r : Request} {read : List Row → Except ParseError Reply}
    (h : r.readRows? = some read) : r.followUp? = none ∧
      ∀ output, r.read output = (read (rows output)).mapError .parse := by
  have parsed {α : Type} (parse : Except ParseError α) (f : α → Reply) :
      (parse.mapError Failure.parse).map f = (parse.map f).mapError .parse := by
    cases parse <;> rfl
  cases r with
  | pvs filter | vgs filter | lvs filter =>
    obtain rfl := Option.some.inj h
    exact ⟨rfl, fun output => parsed _ _⟩
  | _ => exact absurd h (by simp [readRows?])

end StorageTopology.Lvm

namespace StorageTopology.Session

open Diagnostics Lvm

/-! ## The rows of captured output -/

/-- The rows on the lines of captured entries. -/
def rowsOf (entries : List Entry) : List Row :=
  entries.flatMap fun e => rows (Utf8.lossy e)

theorem rowsOf_append (entries more : List Entry) :
    rowsOf (entries ++ more) = rowsOf entries ++ rowsOf more :=
  List.flatMap_append

theorem transcript_cons (e : Entry) (entries : List Entry) :
    transcript (e :: entries) = Utf8.lossy e ++ "\n" ++ transcript entries := by
  unfold transcript
  rw [List.map_cons, String.join_cons]

theorem transcript_append (entries more : List Entry) :
    transcript (entries ++ more) = transcript entries ++ transcript more := by
  unfold transcript
  rw [List.map_append, String.join_append]

/-- Every entry shows in the text, if only by its line feed. -/
theorem transcript_eq_empty_iff {entries : List Entry} :
    transcript entries = "" ↔ entries = [] := by
  cases entries with
  | nil => exact iff_of_true rfl rfl
  | cons e entries =>
    rw [transcript_cons]
    simp

/-- **The rows of captured output** are those of the captured entries. -/
theorem rows_transcript : ∀ entries : List Entry, rows (transcript entries) = rowsOf entries
  | [] => rfl
  | e :: entries => by
    rw [transcript_cons, rows_append_line, rows_transcript entries]
    rfl

/-! ## Requests for a report -/

/-- What a report answers, by the answer to its command line. -/
def reported (read : List Row → Except ParseError Reply) (answer : Except Failure String) :
    Except Failure Reply :=
  answer.bind fun output => (read (rows output)).mapError .parse

variable {S : Type} [Engine S]

/-- **A request for a report** answers with what is read from the rows of the captured output. -/
theorem exec_perform_report {r : Request} {read : List Row → Except ParseError Reply}
    (hread : r.readRows? = some read) {line : String} (hline : r.line = .ok line) (s : Session S)
    (qs : Queues) :
    exec (perform r) s qs =
      (reported read (exec (run line) s qs).1, (exec (run line) s qs).2) := by
  obtain ⟨hsingle, hrows⟩ := Request.read_of_readRows? hread
  rw [exec_perform, carryOut_of_single hsingle, exec_runRequest_of_line hline, funext hrows]
  rfl

end StorageTopology.Session
