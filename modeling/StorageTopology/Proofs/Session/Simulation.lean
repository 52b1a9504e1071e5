import StorageTopology.Proofs.Session.Perform

/-!
# Two sessions side by side

Sessions over two engines are related by an `R` that also relates their queues. If both engines run
a command line alike, that is if the answers are the same and `R` is kept, then so do the sessions
with a request.

* `agree_perform`: requests, from the command lines that they may run.
-/

namespace StorageTopology.Session

open Diagnostics Lvm

variable {S T α : Type}

/-- Two executions have the same answer, and leave what `R` relates. -/
structure Agree (R : Session S × Queues → Session T × Queues → Prop)
    (x : Except Failure α × Session S × Queues) (y : Except Failure α × Session T × Queues) :
    Prop where
  answer : x.1 = y.1
  after : R x.2 y.2

variable [Engine S] [Engine T] {R : Session S × Queues → Session T × Queues → Prop}

/-- Related sessions run a command line alike. -/
def RunsAlike (R : Session S × Queues → Session T × Queues → Prop) (command : String) : Prop :=
  ∀ st st', R st st' → Agree R (exec (run command) st.1 st.2) (exec (run command) st'.1 st'.2)

theorem agree_runRequest {r : Request} (hrun : ∀ line, r.line = .ok line → RunsAlike R line)
    {st : Session S × Queues} {st' : Session T × Queues} (h : R st st') :
    Agree R (exec (runRequest r) st.1 st.2) (exec (runRequest r) st'.1 st'.2) := by
  rw [exec_runRequest, exec_runRequest]
  cases hline : r.line with
  | error cause => exact ⟨rfl, h⟩
  | ok line => exact hrun line hline st st' h

/-- **Related sessions carry out a request alike**, if they run its command line alike and that of
the report that may follow it. -/
theorem agree_perform {r : Request} (hrun : ∀ line, r.line = .ok line → RunsAlike R line)
    (hnext : ∀ next, r.followUp? = some next → ∀ line, next.line = .ok line → RunsAlike R line)
    {st : Session S × Queues} {st' : Session T × Queues} (h : R st st') :
    Agree R (exec (perform r) st.1 st.2) (exec (perform r) st'.1 st'.2) := by
  have hfirst := agree_runRequest hrun h
  rw [exec_perform, exec_perform]
  unfold carryOut
  obtain ⟨hanswer, hafter⟩ := hfirst
  revert hanswer hafter
  rcases exec (runRequest r) st.1 st.2 with ⟨answer, after⟩
  rcases exec (runRequest r) st'.1 st'.2 with ⟨answer', after'⟩
  rintro ⟨⟩ hafter
  cases answer with
  | error cause => exact ⟨rfl, hafter⟩
  | ok output =>
    cases hfollow : r.followUp? with
    | none => exact ⟨rfl, hafter⟩
    | some next =>
      obtain ⟨hanswer, hlast⟩ := agree_runRequest (hnext next hfollow) hafter
      exact ⟨congrArg (·.bind fun output => r.read output) hanswer, hlast⟩

end StorageTopology.Session
