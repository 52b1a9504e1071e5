import StorageTopology.Proofs.Lvm.CommandLine
import StorageTopology.Proofs.Native.Contexts

/-!
# Arguments that a native session refuses

The arguments of a request are looked at twice. The session checks that they are words before it
hands anything over, and the library takes no command line that has the character zero. In between
the session has begun a command line, and a command line ends with a drain of the queue whatever
came of it.

* `admits_perform`: no other request is refused for its arguments, and a rename whose first command
  line was taken is not refused halfway.
* `screens_perform`: a request that is refused leaves the library as it is. The entries of the
  queue stay if the session refuses it, and are lost if the library does.
-/

namespace StorageTopology

namespace Session

open Diagnostics Engine Lvm

variable {S α β : Type}

/-- The answer is not that an argument is wrong. -/
def Admits (answer : Except Failure α) : Prop := ∀ cause, answer ≠ .error (.argument cause)

theorem admits_ok (a : α) : Admits (.ok a : Except Failure α) := fun _ => nofun

theorem Admits.bind {answer : Except Failure α} {next : α → Except Failure β}
    (h : Admits answer) (hnext : ∀ a, Admits (next a)) : Admits (answer.bind next) := by
  cases answer with
  | error failure =>
    intro cause heq
    exact h cause (congrArg Except.error (Except.error.inj heq))
  | ok a => exact hnext a

theorem Admits.map {answer : Except Failure α} (h : Admits answer) (f : α → β) :
    Admits (answer.map f) := by
  have hbind := h.bind fun a => admits_ok (f a)
  cases answer <;> exact hbind

theorem admits_parse (parsed : Except ParseError α) : Admits (parsed.mapError Failure.parse) := by
  cases parsed <;> exact fun _ => nofun

theorem admits_answerTo (command : String) (status : Status) (captured : List Entry) :
    Admits (answerTo command (.ok status) captured) := by
  intro cause
  unfold answerTo
  cases h : status.isSuccess <;> simp [h]

/-- What is read from an output says nothing of arguments. -/
theorem admits_read (output : String) (r : Request) : Admits (r.read output) := by
  cases r with
  | pvs filter | vgs filter | lvs filter => exact (admits_parse _).map _
  | vgrename old new | lvrename vg old new =>
    refine (admits_parse _).bind fun records => ?_
    cases records <;> exact fun _ => nofun
  | _ => exact admits_ok _

end Session

namespace Native

open Diagnostics Engine Lvm Session

variable {r : Request}

/-! ## Requests that are not refused -/

/-- The library takes a command line whose arguments are in order, and sees it. -/
theorem exec_runRequest_of_acceptable (hacceptable : r.Acceptable) (hfree : r.NulFree)
    (s : Session Attached) (qs : Queues) :
    Admits (exec (runRequest r) s qs).1 ∧
      (exec (runRequest r) s qs).2.1.engine.handle = s.engine.handle ∧
      (exec (runRequest r) s qs).2.1.engine.library.trace = s.engine.library.trace ++
        [.ran s.engine.handle.context (Utf8.encode (commandLine r.plainWords))] := by
  obtain ⟨⟨l, h⟩, q⟩ := s
  have hline := Request.line_eq_ok_iff.mpr ⟨hacceptable, rfl⟩
  rw [exec_runRequest_of_line hline, Host.exec_run_of_nulFree (Request.nulFree_line hfree hline)]
  exact ⟨admits_answerTo _ _ _, rfl, rfl⟩

/-- **A request whose arguments are in order is not refused**, not even after the first of two
command lines. -/
theorem admits_perform (hacceptable : r.Acceptable) (hfree : r.NulFree) (s : Session Attached)
    (qs : Queues) :
    Admits (exec (perform r) s qs).1 ∧
      ∃ more, (exec (perform r) s qs).2.1.engine.library.trace = s.engine.library.trace ++
        .ran s.engine.handle.context (Utf8.encode (commandLine r.plainWords)) :: more := by
  have hfirst := exec_runRequest_of_acceptable hacceptable hfree s qs
  rw [exec_perform, carryOut]
  revert hfirst
  rcases exec (runRequest r) s qs with ⟨answer, s', qs'⟩
  rintro ⟨hadmits, -, htrace⟩
  cases answer with
  | error cause => exact ⟨hadmits.bind fun output => admits_read output r, [], htrace⟩
  | ok output =>
    cases hnext : r.followUp? with
    | none => exact ⟨admits_read output r, [], htrace⟩
    | some next =>
      obtain ⟨hadmits', -, htrace'⟩ := exec_runRequest_of_acceptable
        (hacceptable.followUp hnext).1 (hfree.followUp hnext) s' qs'
      refine ⟨hadmits'.bind fun output => admits_read output r,
        [.ran s'.engine.handle.context (Utf8.encode (commandLine next.plainWords))], ?_⟩
      exact (htrace'.trans (congrArg (· ++ _) htrace)).trans (List.append_assoc _ _ _)

/-! ## Requests that are refused -/

/-- Arguments that are not words are refused before anything is handed over. -/
theorem exec_perform_of_not_acceptable {S : Type} [Engine S] (h : ¬ r.Acceptable) (s : Session S)
    (qs : Queues) : ∃ cause, exec (perform r) s qs = (.error (.argument cause), s, qs) := by
  cases hwords : r.words with
  | ok ws => exact absurd (Request.words_eq_ok_iff.mp hwords).1 h
  | error cause =>
    refine ⟨cause, exec_perform_refused ?_ s qs⟩
    unfold Request.line
    rw [hwords]

/-- The library refuses the character zero after the command line was begun. -/
theorem exec_perform_of_nul (hacceptable : r.Acceptable) (hnul : ¬ r.NulFree)
    (s : Session Attached) (qs : Queues) :
    exec (perform r) s qs = (.error (.argument (.nulInCommand (commandLine r.plainWords))), s,
      (qs.drain s.queue).2) := by
  obtain ⟨⟨l, h⟩, q⟩ := s
  have hline := Request.line_eq_ok_iff.mpr ⟨hacceptable, rfl⟩
  have hzero : '\x00' ∈ (commandLine r.plainWords).toList := by
    by_contra hfree
    exact hnul ((Request.nulFree_line_iff hline).mp hfree)
  refine exec_perform_of_error ?_
  rw [exec_runRequest_of_line hline, Host.exec_run_of_nul hzero]

namespace Host

theorem eq_error_of_answerOf {answer : Except Failure Reply} {cause : Failure}
    (h : answerOf answer = .failed cause) : answer = .error cause := by
  cases answer with
  | ok reply => exact absurd h nofun
  | error cause' => exact congrArg Except.error (Answer.failed.inj h)

/-- How the request `r` is dealt with in the session of the handle `h` over the queue `q`, in a host
`p` whose library has `replies` ready: `a` is the answer, and `p'` the host afterwards. -/
structure Screens (p : Host) (h : Handle) (q : QueueId) (replies : List LibraryReply)
    (r : Request) (a : Answer) (p' : Host) : Prop where
  /-- The answer is that an argument is wrong exactly if the session finds arguments that are not
  words, or no devices, or if one has the character zero. -/
  refused : (∃ cause, a = .failed (.argument cause)) ↔ ¬ r.Acceptable ∨ ¬ r.NulFree
  /-- Then the library has received nothing: it is as it was, with all of its replies, and so are
  the handles and the queues of all other sessions. -/
  untouched {cause : ArgumentError} : a = .failed (.argument cause) →
    p'.library = { p.library with replies := replies } ∧ p'.handles = p.handles ∧
      ∀ other, other ≠ q → p'.queues.entries other = p.queues.entries other
  /-- If the session refuses, its queue keeps what it holds as well. -/
  kept : ¬ r.Acceptable → p'.queues = p.queues
  /-- If the library refuses, the queue of the session is drained. -/
  drained : r.Acceptable → ¬ r.NulFree →
    a = .failed (.argument (.nulInCommand (commandLine r.plainWords))) ∧
      p'.queues.entries q = []
  /-- Otherwise the library receives the command line of the request. -/
  handedOver : r.Acceptable → r.NulFree → ∃ more, p'.library.trace = p.library.trace ++
    .ran h.context (Utf8.encode (commandLine r.plainWords)) :: more

/-- **A request that is refused does not reach the library**, whichever of the two refuses it. -/
theorem screens_perform {p : Host} {i : Nat} {h : Handle} {q : QueueId}
    (hheld : p.handles[i]? = some (.wrapped h q)) (replies : List LibraryReply) (r : Request) :
    ∃ a p', p.stepWith replies (.perform i r) = some (a, p') ∧
      Screens p h q replies r a p' := by
  let s : Session Attached := ⟨⟨{ p.library with replies := replies }, h⟩, q⟩
  refine ⟨_, _, stepWith_perform_eq hheld replies r, ?_⟩
  by_cases hacceptable : r.Acceptable
  · by_cases hfree : r.NulFree
    · obtain ⟨hadmits, hmore⟩ := admits_perform hacceptable hfree s p.queues
      have hnot : ¬ ∃ cause,
          answerOf (exec (Session.perform r) s p.queues).1 = .failed (.argument cause) :=
        fun ⟨cause, heq⟩ => hadmits cause (eq_error_of_answerOf heq)
      exact {
        refused := iff_of_false hnot fun h => h.elim (absurd hacceptable) (absurd hfree)
        untouched := fun heq => absurd ⟨_, heq⟩ hnot
        kept := fun h => absurd hacceptable h
        drained := fun _ h => absurd hfree h
        handedOver := fun _ _ => hmore }
    · rw [exec_perform_of_nul hacceptable hfree]
      exact {
        refused := iff_of_true ⟨_, rfl⟩ (.inr hfree)
        untouched := fun _ => ⟨rfl, rfl, fun other hother =>
          Queues.entries_update_of_ne hother.symm p.queues _⟩
        kept := fun h => absurd hacceptable h
        drained := fun _ _ => ⟨rfl, Queues.entries_drain p.queues q⟩
        handedOver := fun _ h => absurd h hfree }
  · obtain ⟨cause, hdone⟩ := exec_perform_of_not_acceptable hacceptable s p.queues
    rw [hdone]
    exact {
      refused := iff_of_true ⟨cause, rfl⟩ (.inl hacceptable)
      untouched := fun _ => ⟨rfl, rfl, fun _ _ => rfl⟩
      kept := fun _ => rfl
      drained := fun h => absurd h hacceptable
      handedOver := fun h => absurd h hacceptable }

/-- A handle in a session over the queue of the process, in which a message is left. -/
theorem exists_reached_wrapped (message : Entry) :
    ∃ p, Reached .initial [(0, ⟨0, 4⟩)] p ∧ p.handles[0]? = some (.wrapped ⟨0, 1⟩ 0) ∧
      p.queues.entries 0 = [message] := by
  have h₀ : Reached .initial [] (initial .initial) := .initial
  have h₁ := h₀.step [] (.start false) rfl
  have h₂ := h₁.step [] (.wrap 0 (some 0) 4) rfl
  exact ⟨_, h₂.step [] (.callBack ⟨4, some message⟩) rfl, rfl, rfl⟩

/-- The character zero in the name of a device. -/
theorem screens_perform_zero :
    let r : Request := .pvcreate "/dev/sd\x00a"
    ∃ p a p', p.handles[0]? = some (.wrapped ⟨0, 1⟩ 0) ∧
      p.stepWith [] (.perform 0 r) = some (a, p') ∧ Screens p ⟨0, 1⟩ 0 [] r a p' := by
  intro r
  obtain ⟨p, -, hheld, -⟩ := exists_reached_wrapped [108]
  obtain ⟨a, p', hstep, hscreens⟩ := screens_perform hheld [] r
  exact ⟨p, a, p', hheld, hstep, hscreens⟩

/-- A queue does not keep what it holds whenever an argument is refused: the character zero in the
name of a device loses the message that is left in it. -/
theorem entries_lost_of_zero :
    ¬ ∀ (installs : List (Nat × Sink)) (p p' : Host) (i : Nat) (h : Handle) (q : QueueId)
      (r : Request) (cause : ArgumentError), Reached .initial installs p →
        p.handles[i]? = some (.wrapped h q) →
        p.stepWith [] (.perform i r) = some (.failed (.argument cause), p') →
        p'.library.trace = p.library.trace ∧ p'.queues.entries q = p.queues.entries q := by
  intro hkept
  obtain ⟨p, hp, hheld, hentries⟩ := exists_reached_wrapped [108]
  have hstep := stepWith_perform_eq hheld [] (.pvcreate "/dev/sd\x00a")
  have hacceptable : Request.Acceptable (.pvcreate "/dev/sd\x00a") :=
    List.forall_mem_singleton.mpr (by decide)
  rw [exec_perform_of_nul hacceptable (by decide)] at hstep
  obtain ⟨-, hsame⟩ := hkept _ p _ 0 _ 0 _ _ hp hheld hstep
  rw [hentries] at hsame
  exact absurd ((Queues.entries_drain p.queues 0).symm.trans hsame) nofun

end Host

end Native

end StorageTopology
