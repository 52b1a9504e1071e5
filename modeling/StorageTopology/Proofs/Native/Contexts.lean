import StorageTopology.Proofs.Native.Slot
import StorageTopology.Proofs.Native.Trace

/-!
# Contexts and what the library saw of them

The handle at a position has the context of the same number, whatever became of it. So the trace of
the library can be told from the handles, and the other way round.

* `Host.Recorded`: what a step adds to the trace, and what it does to the handles. There are five
  kinds of steps; `recorded_stepWith` says that every step is of one of them.
* `Host.Chronicled`: the invariant. The contexts in the trace are those of the handles, those that
  exited are those of the handles that were dropped, and the trace is orderly.
* `Chronicled.recorded`: every step keeps it; `chronicled_of_reached`: so it holds of every host.
-/

namespace StorageTopology.Native

open Diagnostics

namespace Library

/-- A command line that can be handed over runs, and the library sees that. -/
theorem trace_run (l : Library) (h : Handle) (command : String) (qs : Queues) :
    (l.run h command qs).2.1.trace = l.trace ++
      if '\x00' ∈ command.toList then [] else [.ran h.context (Utf8.encode command)] := by
  unfold run
  split
  · exact (List.append_nil _).symm
  · rfl

theorem nextContext_run (l : Library) (h : Handle) (command : String) (qs : Queues) :
    (l.run h command qs).2.1.nextContext = l.nextContext := by
  unfold run
  split <;> rfl

/-- A drop changes the trace and, perhaps, the slot. -/
theorem trace_drop (l : Library) (h : Handle) :
    (l.drop h).trace = l.trace ++ [.exited h.context] ∧
      (l.drop h).nextContext = l.nextContext := by
  have hrelease : (l.release h).trace = l.trace ∧ (l.release h).nextContext = l.nextContext := by
    unfold release
    split
    · split <;> exact ⟨rfl, rfl⟩
    · exact ⟨rfl, rfl⟩
  exact ⟨congrArg (· ++ [Event.exited h.context]) hrelease.1, hrelease.2⟩

end Library

namespace Host

/-! ## What a step adds to the trace -/

/-- The command lines of `commands`, run in the context of `h`. -/
def ranAll (h : Handle) (commands : List String) : List Event :=
  (commands.map Utf8.encode).map (.ran h.context)

theorem ranAll_append (h : Handle) (commands more : List String) :
    ranAll h (commands ++ more) = ranAll h commands ++ ranAll h more := by
  simp [ranAll]

/-- What a step that leads from `p` to `p'` adds to the trace, by what it does to the handles. -/
inductive Recorded (p : Host) (s : Step) (p' : Host) : Prop where
  | refuse (hstep : s = .start true) (roster : p'.roster = p.roster)
      (next : p'.library.nextContext = p.library.nextContext)
      (trace : p'.library.trace = p.library.trace ++ [.registered, .initFailed])
  | start (hstep : s = .start false)
      (roster : p'.roster = p.roster ++ [(⟨p.library.nextContext, p.library.nextOwner⟩, true)])
      (next : p'.library.nextContext = p.library.nextContext + 1)
      (trace : p'.library.trace =
        p.library.trace ++ [.registered, .initialized p.library.nextContext])
  | ran {i : Nat} {h : Handle} (commands : List String)
      (hstep : (∃ command, s = .run i command) ∨ ∃ request, s = .perform i request)
      (live : p.roster[i]? = some (h, true)) (free : ∀ c ∈ commands, '\x00' ∉ c.toList)
      (roster : p'.roster = p.roster) (next : p'.library.nextContext = p.library.nextContext)
      (trace : p'.library.trace = p.library.trace ++ ranAll h commands)
  | drop {i : Nat} {h : Handle} (hstep : s = .drop i) (live : p.roster[i]? = some (h, true))
      (roster : p'.roster = p.roster.set i (h, false))
      (next : p'.library.nextContext = p.library.nextContext)
      (trace : p'.library.trace = p.library.trace ++ [.exited h.context])
  | quiet (roster : p'.roster = p.roster) (next : p'.library.nextContext = p.library.nextContext)
      (trace : p'.library.trace = p.library.trace)

/-- A session over a handle, seen from the trace: it runs command lines and does nothing else. -/
def Runs (l : Library) (h : Handle) (s : Session Attached) (_ : Queues) : Prop :=
  s.engine.handle = h ∧ s.engine.library.nextContext = l.nextContext ∧
    ∃ commands : List String, (∀ c ∈ commands, '\x00' ∉ c.toList) ∧
      s.engine.library.trace = l.trace ++ ranAll h commands

theorem keeps_run_runs (l : Library) (h : Handle) (command : String) :
    Session.Keeps (Runs l h) (Session.run command : Session.Activity Attached String) := by
  rintro ⟨⟨l', h'⟩, q⟩ qs ⟨hhandle, hnext, commands, hfree, htrace⟩
  obtain rfl : h' = h := hhandle
  have hrun := Library.trace_run l' h' command qs
  rw [Session.exec_run]
  refine ⟨rfl, (Library.nextContext_run l' h' command qs).trans hnext, ?_⟩
  by_cases hnul : '\x00' ∈ command.toList
  · rw [if_pos hnul, List.append_nil] at hrun
    exact ⟨commands, hfree, hrun.trans htrace⟩
  · rw [if_neg hnul] at hrun
    refine ⟨commands ++ [command], ?_, ?_⟩
    · intro c hc
      rcases List.mem_append.mp hc with hc | hc
      · exact hfree c hc
      · rwa [List.mem_singleton.mp hc]
    · rw [ranAll_append, ← List.append_assoc, ← htrace]
      exact hrun

theorem recorded_of_taken {p p' : Host} {s : Step} (h : Taken p s p') : Recorded p s p' := by
  cases h with
  | refuse => exact .refuse rfl rfl rfl (List.append_assoc _ _ _)
  | start =>
    exact .start rfl (by simp [roster, Held.handle, Held.isLive]) rfl (List.append_assoc _ _ _)
  | @run i h command hheld =>
    have hrun := Library.trace_run p.library h command p.queues
    have hlive := getElem?_roster hheld
    by_cases hnul : '\x00' ∈ command.toList
    · rw [if_pos hnul] at hrun
      exact .ran [] (.inl ⟨command, rfl⟩) hlive (by simp) rfl
        (Library.nextContext_run _ _ _ _) hrun
    · rw [if_neg hnul] at hrun
      exact .ran [command] (.inl ⟨command, rfl⟩) hlive (by simpa using hnul) rfl
        (Library.nextContext_run _ _ _ _) hrun
  | @perform i h q request hheld =>
    have hkeeps := Session.keeps_perform (keeps_run_runs p.library h) request
      ⟨⟨p.library, h⟩, q⟩ p.queues ⟨rfl, rfl, [], by simp, (List.append_nil _).symm⟩
    obtain ⟨-, hnext, commands, hfree, htrace⟩ := hkeeps
    have hroster : (p.perform h q request).2.roster = p.roster := by
      rw [roster, (perform_steady p h q request).1]
      rfl
    refine .ran commands (.inr ⟨request, rfl⟩) (getElem?_roster hheld) hfree hroster ?_ ?_
    · rw [perform_eq]
      exact hnext
    · rw [perform_eq]
      exact htrace
  | @drop i held hheld live =>
    have hlive := getElem?_roster hheld
    rw [live] at hlive
    obtain ⟨htrace, hnext⟩ := p.library.trace_drop held.handle
    exact .drop rfl hlive (roster_hold _ _ _) hnext htrace
  | wrapOver level hheld present => exact .quiet (roster_hold_eq hheld rfl rfl) rfl rfl
  | wrapOwn level hheld => exact .quiet (roster_hold_eq hheld rfl rfl) rfl rfl
  | unwrap hheld => exact .quiet (roster_hold_eq hheld rfl rfl) rfl rfl
  | _ => exact .quiet rfl rfl rfl

theorem recorded_stepWith {p p' : Host} {replies : List LibraryReply} {s : Step} {a : Answer}
    (h : p.stepWith replies s = some (a, p')) : Recorded p s p' := by
  cases recorded_of_taken (taken_of_step h) with
  | refuse hstep roster next trace => exact .refuse hstep roster next trace
  | start hstep roster next trace => exact .start hstep roster next trace
  | ran commands hstep live free roster next trace =>
    exact .ran commands hstep live free roster next trace
  | drop hstep live roster next trace => exact .drop hstep live roster next trace
  | quiet roster next trace => exact .quiet roster next trace

/-! ## The trace is told from the handles -/

/-- The contexts of a host, by its handles and by its trace. -/
structure Chronicled (p : Host) : Prop where
  next : p.library.nextContext = p.roster.length
  context {i : Nat} {h : Handle} {live : Bool} : p.roster[i]? = some (h, live) → h.context = i
  initialized {n : Nat} : .initialized n ∈ p.library.trace ↔ n < p.roster.length
  exited {n : Nat} : .exited n ∈ p.library.trace ↔ ∃ h, p.roster[n]? = some (h, false)
  orderly : Orderly p.library.trace

theorem chronicled_initial (queues : Queues) : (initial queues).Chronicled := by
  refine ⟨rfl, ?_, ?_, ?_, orderly_nil⟩
  · intro i h live hi
    exact absurd hi (by simp [roster, initial])
  · simp [roster, initial, Library.initial]
  · simp [roster, initial, Library.initial]

variable {p p' : Host}

/-- The context of a live handle is open. -/
theorem Chronicled.open_of_live (hp : p.Chronicled) {i : Nat} {h : Handle}
    (hi : p.roster[i]? = some (h, true)) : Open p.library.trace h.context := by
  rw [hp.context hi]
  refine ⟨hp.initialized.mpr (List.getElem?_eq_some_iff.mp hi).1, ?_⟩
  rw [hp.exited]
  rintro ⟨h', hdead⟩
  exact absurd (Option.some.inj (hdead.symm.trans hi)) (by simp)

/-- A step that leaves the handles alone, and neither starts a context nor ends one. -/
theorem Chronicled.of_roster_eq (hp : p.Chronicled) {events : List Event}
    (roster : p'.roster = p.roster) (next : p'.library.nextContext = p.library.nextContext)
    (trace : p'.library.trace = p.library.trace ++ events)
    (hstart : ∀ n, .initialized n ∉ events) (hexit : ∀ n, .exited n ∉ events)
    (orderly : Orderly (p.library.trace ++ events)) : p'.Chronicled := by
  refine ⟨?_, ?_, ?_, ?_, trace ▸ orderly⟩
  · rw [next, roster, hp.next]
  · rw [roster]
    exact hp.context
  · intro n
    rw [trace, roster, List.mem_append, hp.initialized]
    exact or_iff_left (hstart n)
  · intro n
    rw [trace, roster, List.mem_append, hp.exited]
    exact or_iff_left (hexit n)

/-- The next context starts. -/
theorem Chronicled.start (hp : p.Chronicled) {owner : UInt64}
    (roster : p'.roster = p.roster ++ [(⟨p.library.nextContext, owner⟩, true)])
    (next : p'.library.nextContext = p.library.nextContext + 1)
    (trace : p'.library.trace =
      p.library.trace ++ [.registered, .initialized p.library.nextContext]) : p'.Chronicled := by
  have hlength : p'.roster.length = p.roster.length + 1 := by simp [roster]
  have hnew : .initialized p.library.nextContext ∉ p.library.trace := by
    rw [hp.initialized, hp.next]
    exact Nat.lt_irrefl _
  refine ⟨?_, ?_, ?_, ?_, ?_⟩
  · rw [next, hlength, hp.next]
  · intro i h live hi
    rw [roster] at hi
    by_cases hlt : i < p.roster.length
    · rw [List.getElem?_append_left hlt] at hi
      exact hp.context hi
    · have hlast := (List.getElem?_eq_some_iff.mp hi).1
      rw [List.length_append, List.length_singleton] at hlast
      obtain rfl : i = p.roster.length := by omega
      rw [List.getElem?_concat_length, Option.some.injEq, Prod.mk.injEq] at hi
      rw [← hi.1, hp.next]
  · intro n
    rw [trace, hlength, List.mem_append, hp.initialized, hp.next]
    simp
    omega
  · intro n
    have hold : (∃ h, p'.roster[n]? = some (h, false)) ↔ ∃ h, p.roster[n]? = some (h, false) := by
      rw [roster]
      by_cases hlt : n < p.roster.length
      · rw [List.getElem?_append_left hlt]
      · rw [List.getElem?_append_right (Nat.le_of_not_lt hlt),
          List.getElem?_eq_none (Nat.le_of_not_lt hlt)]
        cases n - p.roster.length <;> simp
    rw [trace, List.mem_append, hp.exited, hold]
    simp
  · rw [trace, List.append_cons]
    refine (hp.orderly.concat (e := .registered) trivial).concat ⟨by simp, ?_⟩
    simpa using hnew

/-- The context of a live handle exits. -/
theorem Chronicled.drop (hp : p.Chronicled) {i : Nat} {h : Handle}
    (live : p.roster[i]? = some (h, true)) (roster : p'.roster = p.roster.set i (h, false))
    (next : p'.library.nextContext = p.library.nextContext)
    (trace : p'.library.trace = p.library.trace ++ [.exited h.context]) : p'.Chronicled := by
  have hi : i < p.roster.length := (List.getElem?_eq_some_iff.mp live).1
  have hlength : p'.roster.length = p.roster.length := by rw [roster, List.length_set]
  refine ⟨by rw [next, hlength, hp.next], ?_, ?_, ?_, ?_⟩
  · intro j h' live' hj
    rw [roster] at hj
    by_cases hij : i = j
    · subst hij
      rw [List.getElem?_set_self hi, Option.some.injEq, Prod.mk.injEq] at hj
      rw [← hj.1]
      exact hp.context live
    · rw [List.getElem?_set_ne hij] at hj
      exact hp.context hj
  · intro n
    rw [trace, hlength, List.mem_append, hp.initialized]
    simp
  · intro n
    rw [trace, roster, List.mem_append, hp.exited, hp.context live]
    by_cases hin : i = n
    · subst hin
      simp [List.getElem?_set_self hi]
    · rw [List.getElem?_set_ne hin]
      simp [Ne.symm hin]
  · rw [trace]
    exact hp.orderly.concat (hp.open_of_live live)

/-- **Every step keeps the chronicle.** -/
theorem Chronicled.recorded (hp : p.Chronicled) {s : Step} (h : Recorded p s p') :
    p'.Chronicled := by
  cases h with
  | refuse hstep roster next trace =>
    refine hp.of_roster_eq roster next trace (by simp) (by simp) ?_
    rw [List.append_cons]
    exact (hp.orderly.concat (e := .registered) trivial).concat (by simp [Event.Admitted])
  | start hstep roster next trace => exact hp.start roster next trace
  | ran commands hstep live free roster next trace =>
    refine hp.of_roster_eq roster next trace (by simp [ranAll]) (by simp [ranAll]) ?_
    refine hp.orderly.ran _ (hp.open_of_live live) fun bytes hbytes hzero => ?_
    obtain ⟨c, hc, rfl⟩ := List.mem_map.mp hbytes
    exact free c hc (Utf8.zero_mem_encode hzero)
  | drop hstep live roster next trace => exact hp.drop live roster next trace
  | quiet roster next trace =>
    refine hp.of_roster_eq roster next (trace.trans (List.append_nil _).symm) nofun nofun ?_
    rw [List.append_nil]
    exact hp.orderly

theorem chronicled_of_reached {queues : Queues} {installs : List (Nat × Sink)}
    (h : Reached queues installs p) : p.Chronicled := by
  induction h with
  | initial => exact chronicled_initial queues
  | step replies s h hstep ih => exact ih.recorded (recorded_stepWith hstep)

end Host

end StorageTopology.Native
