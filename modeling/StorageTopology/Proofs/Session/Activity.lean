import StorageTopology.Engine.Session

/-!
# Activities of a session, one after another

`Session.exec` runs an activity on a session and the queues. The lemmas here say what the parts
of an activity do, so that no other proof opens the monad.

* `exec_run`: one command line. The engine runs it, the queue is drained, and the engine's answer
  together with what was queued decides the answer (`answerTo`).
* `exec_runRequest`: a request whose arguments are refused does nothing.
-/

namespace StorageTopology.Session

open Diagnostics Lvm

variable {S α β : Type}

/-! ## The parts of an activity -/

@[simp] theorem exec_pure (a : α) (s : Session S) (qs : Queues) :
    exec (pure a : Activity S α) s qs = (.ok a, s, qs) := rfl

@[simp] theorem exec_throw (cause : Failure) (s : Session S) (qs : Queues) :
    exec (throw cause : Activity S α) s qs = (.error cause, s, qs) := rfl

/-- The second part of an activity takes place only if the first succeeds. -/
theorem exec_bind (act : Activity S α) (next : α → Activity S β) (s : Session S) (qs : Queues) :
    exec (act >>= next) s qs =
      match exec act s qs with
      | (.ok a, s, qs) => exec (next a) s qs
      | (.error cause, s, qs) => (.error cause, s, qs) := by
  unfold exec ExceptT.run
  simp only [bind, ExceptT.bind, ExceptT.mk, StateT.bind, ExceptT.bindCont]
  cases act (s, qs) with
  | mk answer after => cases answer <;> rfl

@[simp] theorem exec_get (s : Session S) (qs : Queues) :
    exec (get : Activity S (Session S × Queues)) s qs = (.ok (s, qs), s, qs) := rfl

@[simp] theorem exec_set (after : Session S × Queues) (s : Session S) (qs : Queues) :
    exec (set after : Activity S Unit) s qs = (.ok (), after) := rfl

/-! ## Command lines -/

variable [Engine S]

/-- The answer to a command line, by what the engine answered and what was captured. -/
def answerTo (command : String) (answer : Except Failure Engine.Status)
    (captured : List Entry) : Except Failure String :=
  match answer with
  | .error cause => .error cause
  | .ok status =>
    if status.isSuccess then .ok (transcript captured)
    else .error (.engine command status (transcript captured))

/-- Of the codes that an engine gives, only 1 is a success. -/
theorem answerTo_ofCode (command : String) (answer : Except Failure Int32)
    (captured : List Entry) :
    answerTo command (answer.map Engine.Status.ofCode) captured =
      match answer with
      | .error cause => .error cause
      | .ok code =>
        if code = 1 then .ok (transcript captured)
        else .error (.engine command (.ofCode code) (transcript captured)) := by
  cases answer with
  | error cause => rfl
  | ok code =>
    show (if (Engine.Status.ofCode code).isSuccess then _ else _) = _
    by_cases hcode : code = 1
    · rw [if_pos ((Engine.Status.isSuccess_ofCode code).mpr hcode)]
      exact (if_pos hcode).symm
    · rw [if_neg fun h => hcode ((Engine.Status.isSuccess_ofCode code).mp h)]
      exact (if_neg hcode).symm

/-- **One command line**: whatever the engine answers, the queue is drained, and the answer is
made of the engine's answer and of what was drained. -/
theorem exec_run (command : String) (s : Session S) (qs : Queues) :
    exec (run command) s qs =
      (answerTo command (Engine.run command s.engine qs).answer
          ((Engine.run command s.engine qs).queues.entries s.queue),
        { s with engine := (Engine.run command s.engine qs).engine },
        ((Engine.run command s.engine qs).queues.drain s.queue).2) := by
  unfold run answerTo
  simp only [exec_bind, exec_get, exec_set, Queues.drain]
  cases (Engine.run command s.engine qs).answer with
  | error cause => rfl
  | ok status => cases h : status.isSuccess <;> simp [h]

/-- The command line of a request is run only if its arguments are acceptable. -/
theorem exec_runRequest (r : Request) (s : Session S) (qs : Queues) :
    exec (runRequest r) s qs =
      match r.line with
      | .ok line => exec (run line) s qs
      | .error cause => (.error cause, s, qs) := by
  unfold runRequest
  cases r.line <;> rfl

theorem exec_runRequest_of_line {r : Request} {line : String} (h : r.line = .ok line)
    (s : Session S) (qs : Queues) : exec (runRequest r) s qs = exec (run line) s qs := by
  rw [exec_runRequest, h]

end StorageTopology.Session
