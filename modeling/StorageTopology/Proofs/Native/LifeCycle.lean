import StorageTopology.Proofs.Native.Contexts

/-!
# The life cycle of contexts

Whatever is done with handles, and in whichever order the live ones are dropped at the end, the
library sees whole life cycles: every context is started after a registration, runs command lines,
and exits once (`LifeCycle`).

* `reached_dropAll`: the live handles can be dropped in any order.
* `live_of_slot`: the sink in the slot was installed on a handle that is live.
* `lifetimes_of_reached`: what this says of every host that is reached.
-/

namespace StorageTopology.Native

open Diagnostics

/-- An install, and a step that puts a handle into a session or takes it out of one. -/
def Step.rearranges : Step → Bool
  | .install _ _ | .wrap _ _ _ | .unwrap _ => true
  | _ => false

/-- The command line of a step, if it has one and its arguments are acceptable. -/
def Step.line? : Step → Option String
  | .run _ command => some command
  | .perform _ request => request.line.toOption
  | _ => none

namespace Host

variable {queues : Queues} {installs : List (Nat × Sink)} {p p' : Host}

/-! ## Dropping the handles that are live -/

/-- Drop the handles at some positions, in order. -/
def dropAll : List Nat → Host → Option Host
  | [], p => some p
  | i :: order, p => do
    let (_, p) ← p.step (.drop i)
    dropAll order p

theorem Reached.drop (h : Reached queues installs p) {i : Nat} {a : Answer}
    (hstep : p.step (.drop i) = some (a, p')) : Reached queues installs p' := by
  have hreached := h.step p.library.replies (.drop i) hstep
  rwa [show (p.install? (.drop i)).toList = [] from rfl, List.append_nil] at hreached

/-- To drop a handle ends one life. -/
theorem isLive_drop {i : Nat} {a : Answer} (hstep : p.step (.drop i) = some (a, p')) (j : Nat) :
    p'.isLive j ↔ p.isLive j ∧ j ≠ i := by
  have hchange := change_of_taken (taken_of_step hstep)
  by_cases hj : j < p.roster.length
  · rw [hchange.isLive_iff hj]
    refine and_congr_right fun _ => not_congr ⟨fun h => (Step.drop.inj h).symm, fun h => ?_⟩
    rw [h]
  · cases hchange with
    | start hstep => exact absurd hstep (by simp)
    | install hstep => exact absurd hstep (by simp [install?])
    | other hstep => exact absurd rfl (hstep.2 i)
    | drop hstep live roster =>
      have hbefore : p.roster[j]? = none := List.getElem?_eq_none (Nat.le_of_not_lt hj)
      have hafter : p'.roster[j]? = none := by
        rw [roster, List.getElem?_eq_none]
        rw [List.length_set]
        exact Nat.le_of_not_lt hj
      simp [isLive_eq, hbefore, hafter]

/-- **Live handles can be dropped in any order.** -/
theorem reached_dropAll : ∀ {order : List Nat} {p : Host}, Reached queues installs p →
    order.Nodup → (∀ i ∈ order, p.isLive i) →
      ∃ p', p.dropAll order = some p' ∧ Reached queues installs p' ∧
        ∀ i, p'.isLive i ↔ p.isLive i ∧ i ∉ order
  | [], p, h, _, _ => ⟨p, rfl, h, by simp⟩
  | i :: order, p, h, hnodup, hlive => by
    obtain ⟨hi, hnodup⟩ := List.nodup_cons.mp hnodup
    obtain ⟨held, hheld, live⟩ := (Option.any_eq_true _ _).mp (hlive i List.mem_cons_self)
    have hstep := step_drop hheld live
    have hstill := isLive_drop hstep
    obtain ⟨p', hrest, hreached, hafter⟩ := reached_dropAll (h.drop hstep) hnodup fun j hj =>
      (hstill j).mpr ⟨hlive j (List.mem_cons_of_mem i hj), fun hji => hi (hji ▸ hj)⟩
    refine ⟨p', Option.bind_eq_some_iff.mpr ⟨_, hstep, hrest⟩, hreached, fun j => ?_⟩
    rw [hafter, hstill, List.mem_cons, not_or, and_assoc]

/-! ## Who is in the slot -/

/-- The sink in the slot is that of the last install, and the handle of that install is live. -/
theorem live_of_slot (h : Reached queues installs p) {owner : UInt64} {sink : Sink}
    (hslot : p.library.slot = some (owner, sink)) :
    ∃ i h, installs.getLast? = some (i, sink) ∧ p.roster[i]? = some (h, true) ∧
      h.owner = owner := by
  induction h generalizing owner sink with
  | initial => exact absurd hslot (by simp [initial, Library.initial])
  | @step installs p p' a replies s h hstep ih =>
    have kept : p.install? s = none → p.library.slot = some (owner, sink) →
        ∃ i h, (installs ++ (p.install? s).toList).getLast? = some (i, sink) ∧
          p.roster[i]? = some (h, true) ∧ h.owner = owner := by
      intro hnone hbefore
      rw [hnone, Option.toList_none, List.append_nil]
      exact ih hbefore
    cases change_stepWith hstep with
    | start hs roster slot _ _ =>
      obtain ⟨i, h', hlast, hlive, howner⟩ := kept (by rw [hs]; rfl) (slot.symm.trans hslot)
      refine ⟨i, h', hlast, ?_, howner⟩
      rw [roster, List.getElem?_append_left (List.getElem?_eq_some_iff.mp hlive).1, hlive]
    | @install i sink' h' hs live roster slot _ _ _ =>
      obtain ⟨howner, rfl⟩ := Prod.mk.inj (Option.some.inj (slot.symm.trans hslot))
      exact ⟨i, h', by simp [hs], roster ▸ live, howner⟩
    | @drop i h' hs live roster slot _ _ =>
      subst hs
      rw [slot] at hslot
      split at hslot
      · exact absurd hslot (by simp)
      · rename_i hother
        obtain ⟨j, h'', hlast, hlive, howner⟩ := kept rfl hslot
        -- the handle that is dropped has another owner number, so it is another handle
        have hij : i ≠ j := by
          rintro rfl
          obtain ⟨rfl, -⟩ := Prod.mk.inj (Option.some.inj (live.symm.trans hlive))
          exact hother (by rw [hslot, ← howner]; rfl)
        refine ⟨j, h'', hlast, ?_, howner⟩
        rw [roster, List.getElem?_set_ne hij, hlive]
    | other hs roster slot _ _ =>
      obtain ⟨i, h', hlast, hlive, howner⟩ := kept hs.1 (slot.symm.trans hslot)
      exact ⟨i, h', hlast, roster ▸ hlive, howner⟩

/-! ## Command lines that cannot be handed over -/

/-- The library does not see a step whose command line has the character zero. -/
theorem trace_of_nul {s : Step} (h : Taken p s p') {command : String}
    (hline : s.line? = some command) (hnul : '\x00' ∈ command.toList) :
    p'.library.trace = p.library.trace := by
  cases h with
  | run command' hheld =>
    obtain rfl := Option.some.inj hline
    show (p.library.run _ _ _).2.1.trace = _
    rw [Library.trace_run, if_pos hnul, List.append_nil]
  | @perform i h q request hheld =>
    have hline : request.line = .ok command := by
      cases hrequest : request.line with
      | error cause => simp [Step.line?, hrequest, Except.toOption] at hline
      | ok line =>
        simp only [Step.line?, hrequest, Except.toOption, Option.some.injEq] at hline
        rw [hline]
    have hexec := exec_run_of_nul hnul p.library h q p.queues
    rw [← Session.exec_runRequest_of_line hline] at hexec
    rw [perform_eq, Session.exec_perform_of_error hexec]
  | _ => exact absurd hline (by simp [Step.line?])

/-! ## What holds of every host that is reached -/

/-- The life of contexts, as far as a host `p` and the installs that led to it. -/
structure Lifetimes (installs : List (Nat × Sink)) (p : Host) : Prop where
  /-- The live handles can be dropped in any order. Then the library saw whole life cycles, and
  the slot is empty. -/
  ended {order : List Nat} : order.Nodup → (∀ i, i ∈ order ↔ p.isLive i) →
    ∃ p', p.dropAll order = some p' ∧ LifeCycle p'.library.trace ∧ p'.library.slot = none
  /-- A context that fails to start has no handle, and nothing comes of it. -/
  refused {replies : List LibraryReply} {a : Answer} {p' : Host} :
    p.stepWith replies (.start true) = some (a, p') → a = .failed .engineInit ∧
      p'.handles = p.handles ∧ p'.library.trace = p.library.trace ++ [.registered, .initFailed]
  /-- The library sees nothing of an install, nor of a handle that is put into a session or taken
  out of one. -/
  rearranged {replies : List LibraryReply} {s : Step} {a : Answer} {p' : Host} : s.rearranges →
    p.stepWith replies s = some (a, p') → p'.library.trace = p.library.trace
  /-- Nor does it see a command line that has the character zero. -/
  unsent {replies : List LibraryReply} {s : Step} {a : Answer} {p' : Host} {command : String} :
    s.line? = some command → '\x00' ∈ command.toList →
      p.stepWith replies s = some (a, p') → p'.library.trace = p.library.trace
  /-- The context of the handle at a position has its number, and it exited exactly if the handle
  was dropped. -/
  contexts {n : Nat} {held : Held} : p.handles[n]? = some held →
    held.handle.context = n ∧ (.exited n ∈ p.library.trace ↔ held.isLive = false)
  /-- If the slot is occupied, its sink was installed on a handle whose context has not exited,
  and the owner number is the one of that handle. -/
  slot {owner : UInt64} {sink : Sink} : p.library.slot = some (owner, sink) →
    ∃ n held, installs.getLast? = some (n, sink) ∧ p.handles[n]? = some held ∧
      held.handle.owner = owner ∧ .exited n ∉ p.library.trace
  /-- As long as owner numbers did not run out, the slot does not have the owner number of a handle
  whose context has exited. -/
  released {n : Nat} {held : Held} : p.handles.length < UInt64.size →
    p.handles[n]? = some held → .exited n ∈ p.library.trace →
      p.library.slot.map Prod.fst ≠ some held.handle.owner

theorem Chronicled.exited_iff (hp : p.Chronicled) {n : Nat} {held : Held}
    (hheld : p.handles[n]? = some held) :
    .exited n ∈ p.library.trace ↔ held.isLive = false := by
  rw [hp.exited, getElem?_roster hheld]
  simp

/-- At the end of a history, when no handle is live. -/
theorem lifeCycle_of_reached (h : Reached queues installs p) (ended : ∀ i, ¬ p.isLive i) :
    LifeCycle p.library.trace ∧ p.library.slot = none := by
  have hp := chronicled_of_reached h
  have dead : ∀ {i : Nat} {h' : Handle} {live : Bool},
      p.roster[i]? = some (h', live) → live = false := by
    intro i h' live hi
    have hend := ended i
    rw [isLive_eq, hi] at hend
    exact Bool.eq_false_iff.mpr hend
  refine ⟨hp.orderly.lifeCycle fun n hstart => ?_, ?_⟩
  · have hn := List.getElem?_eq_getElem (hp.initialized.mp hstart)
    rw [hp.exited]
    exact ⟨_, hn.trans (congrArg some (Prod.ext rfl (dead hn)))⟩
  · cases hslot : p.library.slot with
    | none => rfl
    | some owned =>
      obtain ⟨i, h', -, hlive, -⟩ := live_of_slot h hslot
      exact absurd (dead hlive) (by simp)

/-- **The life cycle of contexts**, whatever was done with handles. -/
theorem lifetimes_of_reached (h : Reached queues installs p) : p.Lifetimes installs := by
  have hp := chronicled_of_reached h
  have slot : ∀ {owner : UInt64} {sink : Sink}, p.library.slot = some (owner, sink) →
      ∃ n held, installs.getLast? = some (n, sink) ∧ p.handles[n]? = some held ∧
        held.handle.owner = owner ∧ .exited n ∉ p.library.trace := by
    intro owner sink hslot
    obtain ⟨n, h', hlast, hlive, howner⟩ := live_of_slot h hslot
    obtain ⟨held, hheld, rfl, hstill⟩ := roster_eq_some.mp hlive
    refine ⟨n, held, hlast, hheld, howner, ?_⟩
    rw [hp.exited_iff hheld, hstill]
    exact Bool.noConfusion
  refine ⟨?_, ?_, ?_, ?_, ?_, slot, ?_⟩
  · intro order hnodup hall
    obtain ⟨p', hdrop, hreached, hafter⟩ := reached_dropAll h hnodup fun i hi => (hall i).mp hi
    refine ⟨p', hdrop, lifeCycle_of_reached hreached fun i hlive => ?_⟩
    obtain ⟨hi, hnot⟩ := (hafter i).mp hlive
    exact hnot ((hall i).mpr hi)
  · intro replies a p' hstep
    obtain ⟨rfl, rfl⟩ := Prod.mk.inj (Option.some.inj hstep)
    exact ⟨rfl, rfl, List.append_assoc _ _ _⟩
  · intro replies s a p' hs hstep
    cases taken_of_step hstep with
    | install | wrapOver | wrapOwn | unwrap => rfl
    | _ => exact absurd hs (by simp [Step.rearranges])
  · intro replies s a p' command hline hnul hstep
    exact (trace_of_nul (taken_of_step hstep) hline hnul :)
  · intro n held hheld
    exact ⟨hp.context (getElem?_roster hheld), hp.exited_iff hheld⟩
  · intro n held few hheld hexit howner
    obtain ⟨⟨owner, sink⟩, hslot, rfl⟩ := Option.map_eq_some_iff.mp howner
    obtain ⟨m, held', -, hheld', howner', hopen⟩ := slot hslot
    have hnumbered := (owned_of_reached h few).numbered
    have hn := (List.getElem?_eq_some_iff.mp hheld).1
    have hm := (List.getElem?_eq_some_iff.mp hheld').1
    rw [hnumbered.owner (getElem?_roster hheld),
      hnumbered.owner (getElem?_roster hheld')] at howner'
    obtain rfl : m = n := ownerAt_injective (by omega) (by omega) howner'
    exact hopen hexit

/-- Two contexts, and a third one that fails to start. The first is put into a session, which cannot
hand over its first command line; the second is dropped before the first. -/
theorem lifetimes_of_reached_two_contexts :
    ∃ p, Reached .initial [(0, ⟨1, 4⟩)] p ∧ p.Lifetimes [(0, ⟨1, 4⟩)] ∧
      (p.dropAll [0]).map (·.library.trace) =
        some [.registered, .initialized 0, .registered, .initFailed, .registered, .initialized 1,
          .ran 0 (Utf8.encode "vgs"), .exited 1, .exited 0] := by
  have h₀ : Reached .initial [] (initial .initial) := .initial
  have h₁ := h₀.step [] (.start false) rfl
  have h₂ := h₁.step [] (.start true) rfl
  have h₃ := h₂.step [] (.start false) rfl
  have h₄ := h₃.step [] (.wrap 0 none 4) rfl
  have h₅ := h₄.step [] (.perform 0 (.run "vgs\x00")) rfl
  have h₆ := h₅.step [] (.perform 0 (.run "vgs")) rfl
  have h₇ := h₆.step [] (.drop 1) rfl
  exact ⟨_, h₇, lifetimes_of_reached h₇, rfl⟩

end Host

end StorageTopology.Native
