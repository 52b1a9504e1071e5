import StorageTopology.Proofs.Session.Activity

/-!
# Requests by their command lines

A request is one command line whose output is read. A rename is two command lines: the first one
renames, and the output of the second one, a report on the new name, is read.

* `exec_perform`: what a request does, by what its command lines do. Other modules learn of
  requests from here only, and of command lines from `exec_run`.
* `exec_perform_of_error`: if the first command line fails, that is all.
* `keeps_perform`: what every command line keeps, every request keeps.
-/

namespace StorageTopology.Lvm.Request

/-- The report that follows a rename. -/
def followUp? : Request → Option Request
  | .vgrename _ new => some (.vgs [new])
  | .lvrename vg _ new => some (.lvs [volumeWord vg new])
  | _ => none

/-- What a request answers, by the output of its last command line. -/
def read (output : String) : Request → Except Failure Reply
  | .run _ => .ok (.text output)
  | .pvs _ => ((PhysicalVolume.parseReport output).mapError .parse).map .physicalVolumes
  | .vgs _ => ((VolumeGroup.parseReport output).mapError .parse).map .volumeGroups
  | .lvs _ => ((LogicalVolume.parseReport output).mapError .parse).map .logicalVolumes
  | .vgrename _ new =>
    ((VolumeGroup.parseReport output).mapError .parse).bind fun
      | group :: _ => .ok (.volumeGroups [group])
      | [] => .error (.operation (.missingAfterRename "vg" new))
  | .lvrename vg _ new =>
    ((LogicalVolume.parseReport output).mapError .parse).bind fun
      | volume :: _ => .ok (.logicalVolumes [volume])
      | [] => .error (.operation (.missingAfterRename "lv" (volumeWord vg new)))
  | _ => .ok .done

/-- A command line that is given as such is run as it is. -/
theorem line_run (command : String) : (run command).line = .ok command := by
  simp [line, words, commandLine]

end StorageTopology.Lvm.Request

namespace StorageTopology.Session

open Diagnostics Lvm

variable {S α β : Type}

/-! ## Activities that only answer -/

/-- `act` answers `answer` and does nothing. -/
def Answers (act : Activity S α) (answer : Except Failure α) : Prop :=
  ∀ s qs, exec act s qs = (answer, s, qs)

theorem answers_pure (a : α) : Answers (pure a : Activity S α) (.ok a) := fun _ _ => rfl

theorem answers_throw (cause : Failure) : Answers (throw cause : Activity S α) (.error cause) :=
  fun _ _ => rfl

theorem answers_readReport (parse : String → Except ParseError (List α)) (output : String) :
    Answers (readReport parse output : Activity S (List α)) ((parse output).mapError .parse) := by
  unfold readReport
  cases parse output with
  | error cause => exact answers_throw _
  | ok records => exact answers_pure records

/-- What follows an activity and only answers does not change what it leaves. -/
theorem exec_bind_answers {next : α → Activity S β} {answer : α → Except Failure β}
    (hnext : ∀ a, Answers (next a) (answer a)) (act : Activity S α) (s : Session S) (qs : Queues) :
    exec (act >>= next) s qs = ((exec act s qs).1.bind answer, (exec act s qs).2) := by
  rw [exec_bind]
  rcases exec act s qs with ⟨answer, s', qs'⟩
  cases answer with
  | error cause => rfl
  | ok a => exact hnext a s' qs'

theorem Answers.bind {act : Activity S α} {first : Except Failure α} {next : α → Activity S β}
    {answer : α → Except Failure β} (hact : Answers act first)
    (hnext : ∀ a, Answers (next a) (answer a)) : Answers (act >>= next) (first.bind answer) := by
  intro s qs
  rw [exec_bind_answers hnext, hact]

theorem Answers.map {act : Activity S α} {first : Except Failure α} (hact : Answers act first)
    (f : α → β) : Answers (act >>= fun a => pure (f a)) (first.map f) := by
  have hbind := hact.bind fun a => answers_pure (f a)
  cases first <;> exact hbind

/-! ## Requests -/

variable [Engine S]

/-- The first command line of a request and, if it succeeds and there is one, the one after it;
then the answer is read from the output of the last of them. -/
def carryOut (r : Request) (s : Session S) (qs : Queues) :
    Except Failure Reply × Session S × Queues :=
  match exec (runRequest r) s qs, r.followUp? with
  | (.error cause, after), _ => (.error cause, after)
  | (.ok output, after), none => (r.read output, after)
  | (.ok _, s, qs), some next =>
    ((exec (runRequest next) s qs).1.bind fun output => r.read output,
      (exec (runRequest next) s qs).2)

/-- A request of one command line. -/
theorem carryOut_of_single {r : Request} (h : r.followUp? = none) (s : Session S) (qs : Queues) :
    carryOut r s qs =
      ((exec (runRequest r) s qs).1.bind fun output => r.read output,
        (exec (runRequest r) s qs).2) := by
  unfold carryOut
  rw [h]
  rcases exec (runRequest r) s qs with ⟨answer, after⟩
  cases answer <;> rfl

/-- Two requests, the second after the first has succeeded: what is answered is read from the output
of the second. -/
theorem exec_followed {r next : Request} {reading : String → Activity S α}
    {read : String → Except Failure α} (hreading : ∀ output, Answers (reading output) (read output))
    (s : Session S) (qs : Queues) :
    exec (runRequest r >>= fun _ => runRequest next >>= reading) s qs =
      match exec (runRequest r) s qs with
      | (.error cause, after) => (.error cause, after)
      | (.ok _, s, qs) =>
        ((exec (runRequest next) s qs).1.bind read, (exec (runRequest next) s qs).2) := by
  rw [exec_bind]
  rcases exec (runRequest r) s qs with ⟨answer, s', qs'⟩
  cases answer with
  | error cause => rfl
  | ok output => exact exec_bind_answers hreading _ s' qs'

/-- **What a request does** is what its command lines do, and what it answers is read from the
output of the last of them. -/
theorem exec_perform (r : Request) (s : Session S) (qs : Queues) :
    exec (perform r) s qs = carryOut r s qs := by
  have single {next : String → Activity S Reply} (h : r.followUp? = none)
      (hnext : ∀ output, Answers (next output) (r.read output)) :
      exec (runRequest r >>= next) s qs = carryOut r s qs := by
    rw [carryOut_of_single h, exec_bind_answers hnext]
  have double {next : Request} {reading : String → Activity S Reply} (h : r.followUp? = some next)
      (hreading : ∀ output, Answers (reading output) (r.read output)) :
      exec (runRequest r >>= fun _ => runRequest next >>= reading) s qs = carryOut r s qs := by
    unfold carryOut
    rw [exec_followed hreading, h]
    rcases exec (runRequest r) s qs with ⟨answer, s', qs'⟩
    cases answer <;> rfl
  cases r with
  | run command =>
    rw [carryOut_of_single rfl, exec_runRequest_of_line (Request.line_run command)]
    exact exec_bind_answers (fun output => answers_pure _) _ s qs
  | pvs filter | vgs filter | lvs filter =>
    show exec ((runRequest _ >>= _) >>= _) s qs = _
    rw [bind_assoc]
    exact single rfl fun output => (answers_readReport _ output).map _
  | vgrename old new =>
    show exec ((runRequest _ >>= fun _ => (runRequest _ >>= _) >>= _) >>= _) s qs = _
    simp only [bind_assoc]
    refine double rfl fun output => (answers_readReport _ output).bind fun groups => ?_
    cases groups with
    | nil => exact answers_throw _
    | cons group _ => exact answers_pure _
  | lvrename vg old new =>
    show exec ((runRequest _ >>= fun _ => (runRequest _ >>= _) >>= _) >>= _) s qs = _
    simp only [bind_assoc]
    refine double rfl fun output => (answers_readReport _ output).bind fun volumes => ?_
    cases volumes with
    | nil => exact answers_throw _
    | cons volume _ => exact answers_pure _
  | _ => exact single rfl fun output => answers_pure _

/-- A request whose first command line fails does no more than that. -/
theorem exec_perform_of_error {r : Request} {cause : Failure} {s : Session S} {qs : Queues}
    {after : Session S × Queues} (h : exec (runRequest r) s qs = (.error cause, after)) :
    exec (perform r) s qs = (.error cause, after) := by
  rw [exec_perform, carryOut, h]

/-- A request whose first command line succeeds leaves what the report that follows leaves. -/
theorem exec_perform_of_followUp {r next : Request} {output : String} {s s' : Session S}
    {qs qs' : Queues} (h : exec (runRequest r) s qs = (.ok output, s', qs'))
    (hnext : r.followUp? = some next) :
    (exec (perform r) s qs).2 = (exec (runRequest next) s' qs').2 := by
  rw [exec_perform, carryOut, h, hnext]

/-- A request whose arguments are refused answers so, and does nothing. -/
theorem exec_perform_refused {r : Request} {cause : Failure} (hline : r.line = .error cause)
    (s : Session S) (qs : Queues) : exec (perform r) s qs = (.error cause, s, qs) := by
  refine exec_perform_of_error ?_
  rw [exec_runRequest, hline]

theorem exec_perform_run (command : String) (s : Session S) (qs : Queues) :
    exec (perform (.run command)) s qs =
      ((exec (run command) s qs).1.map Reply.text, (exec (run command) s qs).2) := by
  rw [exec_perform, carryOut_of_single rfl, exec_runRequest_of_line (Request.line_run command)]
  rcases exec (run command) s qs with ⟨answer, after⟩
  cases answer <;> rfl

/-! ## What a request keeps -/

/-- `act` keeps `P`: a session and queues that satisfy it satisfy it afterwards, whether the
activity succeeds or fails. -/
def Keeps (P : Session S → Queues → Prop) (act : Activity S α) : Prop :=
  ∀ s qs, P s qs → P (exec act s qs).2.1 (exec act s qs).2.2

variable {P : Session S → Queues → Prop}

theorem keeps_runRequest (hrun : ∀ command, Keeps P (run command : Activity S String))
    (r : Request) : Keeps P (runRequest r : Activity S String) := by
  intro s qs h
  rw [exec_runRequest]
  cases r.line with
  | error cause => exact h
  | ok line => exact hrun line s qs h

/-- **Requests run command lines and do nothing else**: what every command line keeps, every
request keeps. -/
theorem keeps_perform (hrun : ∀ command, Keeps P (run command : Activity S String))
    (r : Request) : Keeps P (perform r : Activity S Reply) := by
  intro s qs h
  have hfirst := keeps_runRequest hrun r s qs h
  rw [exec_perform, carryOut]
  revert hfirst
  rcases exec (runRequest r) s qs with ⟨answer, s', qs'⟩
  intro hfirst
  cases answer with
  | error cause => exact hfirst
  | ok output =>
    cases r.followUp? with
    | none => exact hfirst
    | some next => exact keeps_runRequest hrun next s' qs' hfirst

end StorageTopology.Session
