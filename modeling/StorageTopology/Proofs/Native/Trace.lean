import StorageTopology.Native.Library

/-!
# Traces of the library

A trace is orderly if each of its events may come after the events before it (`Event.Admitted`):
a context is started right after a registration and only once, and it runs and exits only while it
is open.

* `Orderly.concat`: an orderly trace is continued by an event that may come next.
* `LifeCycle`: what is true of a trace at the end of which every context has exited;
  `Orderly.lifeCycle` says that such a trace need only be orderly.
-/

namespace StorageTopology

namespace Utf8

/-- Only the character zero is encoded with a zero byte. -/
theorem eq_of_zero_mem_utf8EncodeChar {c : Char} (h : 0 ∈ String.utf8EncodeChar c) :
    c = '\x00' := by
  have nonzero : ∀ n : Nat, 0 < n → n < 256 → (0 : UInt8) ≠ UInt8.ofNat n := by
    intro n hpos hn hzero
    have hnat := congrArg UInt8.toNat hzero
    rw [UInt8.toNat_ofNat_of_lt' hn] at hnat
    exact absurd hnat (Nat.ne_of_lt hpos)
  by_cases hzero : c.val.toNat = 0
  · exact Char.ext (UInt32.toNat_inj.mp hzero)
  · refine absurd rfl ((?_ : ∀ b ∈ String.utf8EncodeChar c, 0 ≠ b) 0 h)
    unfold String.utf8EncodeChar
    simp only
    repeat' split
    all_goals
      simp only [List.forall_mem_cons, List.not_mem_nil, false_implies, implies_true, and_true]
      repeat' apply And.intro
      all_goals exact nonzero _ (by omega) (by omega)

theorem zero_mem_encode {s : String} (h : 0 ∈ encode s) : '\x00' ∈ s.toList := by
  obtain ⟨c, hc, hzero⟩ := List.mem_flatMap.mp h
  rwa [eq_of_zero_mem_utf8EncodeChar hzero] at hc

end Utf8

namespace Native

/-! ## Which event may come next -/

/-- A context is open from its start until it exits. -/
def Open (trace : List Event) (context : Nat) : Prop :=
  .initialized context ∈ trace ∧ .exited context ∉ trace

/-- An attempt to start a context, whether it succeeds or fails. -/
def Event.isAttempt : Event → Bool
  | .initialized _ | .initFailed => true
  | _ => false

/-- Whether an event may come after the events `before`. -/
def Event.Admitted (before : List Event) : Event → Prop
  | .registered => True
  | .initFailed => before.getLast? = some .registered
  | .initialized n => before.getLast? = some .registered ∧ .initialized n ∉ before
  | .ran n command => Open before n ∧ 0 ∉ command
  | .exited n => Open before n

/-- Every event of the trace may come after the events before it. -/
structure Orderly (trace : List Event) : Prop where
  admitted {before after : List Event} {e : Event} : trace = before ++ e :: after →
    e.Admitted before

variable {trace : List Event}

theorem orderly_nil : Orderly [] := ⟨fun h => absurd h.symm (by simp)⟩

/-- **An event that may come next** keeps a trace orderly. -/
theorem Orderly.concat (h : Orderly trace) {e : Event} (he : e.Admitted trace) :
    Orderly (trace ++ [e]) := by
  constructor
  intro before after e' hsplit
  rcases List.eq_nil_or_concat after with rfl | ⟨after', last, rfl⟩
  · obtain ⟨rfl, hlast⟩ := List.append_inj' hsplit rfl
    obtain rfl := List.singleton_inj.mp hlast
    exact he
  · rw [List.concat_eq_append, ← List.cons_append, ← List.append_assoc] at hsplit
    exact h.admitted (List.append_inj' hsplit rfl).1

theorem open_append {context : Nat} {more : List Event} (h : Open trace context)
    (hmore : .exited context ∉ more) : Open (trace ++ more) context := by
  refine ⟨List.mem_append_left more h.1, ?_⟩
  rw [List.mem_append]
  exact fun hexit => hexit.elim h.2 hmore

/-- A context that is open runs any command lines that have no zero byte. -/
theorem Orderly.ran {context : Nat} : ∀ (commands : List Bytes) {trace : List Event},
    Orderly trace → Open trace context → (∀ c ∈ commands, 0 ∉ c) →
      Orderly (trace ++ commands.map (.ran context))
  | [], trace, h, _, _ => by rwa [List.map_nil, List.append_nil]
  | c :: commands, trace, h, hopen, hfree => by
    have hone : Orderly (trace ++ [.ran context c]) :=
      h.concat (e := .ran context c) ⟨hopen, hfree c List.mem_cons_self⟩
    have hstill : Open (trace ++ [.ran context c]) context := open_append hopen (by simp)
    rw [List.map_cons, List.append_cons]
    exact Orderly.ran commands hone hstill fun c hc => hfree c (List.mem_cons_of_mem _ hc)

/-! ## What follows of a whole trace -/

theorem Orderly.initialized_of_exited (h : Orderly trace) {n : Nat} (hexit : .exited n ∈ trace) :
    .initialized n ∈ trace := by
  obtain ⟨before, after, hsplit⟩ := List.append_of_mem hexit
  have hopen : Open before n := h.admitted hsplit
  exact hsplit ▸ List.mem_append_left _ hopen.1

/-- The events before an event are an orderly trace. -/
theorem Orderly.before (h : Orderly trace) {before after : List Event} {e : Event}
    (hsplit : trace = before ++ e :: after) : Orderly before := by
  constructor
  intro before' after' e' hsplit'
  subst hsplit'
  exact h.admitted (hsplit.trans (List.append_assoc _ _ _))

/-- An event that may not come after itself does not come again. -/
theorem Orderly.once (h : Orderly trace) {e : Event}
    (hnot : ∀ {before}, e.Admitted before → e ∉ before) {before after : List Event}
    (hsplit : trace = before ++ e :: after) : e ∉ after := by
  intro hagain
  obtain ⟨middle, rest, hafter⟩ := List.append_of_mem hagain
  have hsecond : trace = (before ++ e :: middle) ++ e :: rest := by
    rw [hsplit, hafter, List.append_assoc, List.cons_append]
  exact hnot (h.admitted hsecond) (List.mem_append_right _ List.mem_cons_self)

/-- What is true of a trace at the end of which every context has exited. -/
structure LifeCycle (trace : List Event) : Prop where
  /-- Right before every attempt to start a context the callback was registered. -/
  registered {before after : List Event} {e : Event} : trace = before ++ e :: after →
    e.isAttempt → before.getLast? = some .registered
  /-- A context is started once. It exits exactly once, and only afterwards. -/
  started {before after : List Event} {n : Nat} : trace = before ++ .initialized n :: after →
    .initialized n ∉ before ∧ .initialized n ∉ after ∧
      .exited n ∉ before ∧ after.count (.exited n) = 1
  /-- A command line runs in a context after its start and before its exit, and it has no zero
  byte. -/
  ran {before after : List Event} {n : Nat} {command : Bytes} :
    trace = before ++ .ran n command :: after →
      .initialized n ∈ before ∧ .exited n ∉ before ∧ .exited n ∈ after ∧ 0 ∉ command
  /-- What exits was started before. -/
  exited {before after : List Event} {n : Nat} : trace = before ++ .exited n :: after →
    .initialized n ∈ before

/-- **An orderly trace at the end of which every context has exited.** -/
theorem Orderly.lifeCycle (h : Orderly trace)
    (ended : ∀ n, .initialized n ∈ trace → .exited n ∈ trace) : LifeCycle trace := by
  refine ⟨?_, ?_, ?_, ?_⟩
  · intro before after e hsplit hattempt
    have hadmitted := h.admitted hsplit
    cases e with
    | initialized n => exact hadmitted.1
    | initFailed => exact hadmitted
    | _ => exact absurd hattempt (by simp [Event.isAttempt])
  · intro before after n hsplit
    have hnew : .initialized n ∉ before := (h.admitted hsplit).2
    have hearly : .exited n ∉ before :=
      fun hexit => hnew ((h.before hsplit).initialized_of_exited hexit)
    refine ⟨hnew, h.once (e := .initialized n) And.right hsplit, hearly, ?_⟩
    have hexit : .exited n ∈ trace := ended n (by simp [hsplit])
    have hlater : .exited n ∈ after := by simpa [hsplit, hearly] using hexit
    obtain ⟨middle, rest, hafter⟩ := List.append_of_mem hlater
    have hend : trace = (before ++ .initialized n :: middle) ++ .exited n :: rest := by
      rw [hsplit, hafter, List.append_assoc, List.cons_append]
    have hmiddle : .exited n ∉ middle := fun hm => (h.admitted hend).2 (by simp [hm])
    have hrest : .exited n ∉ rest := h.once (e := .exited n) And.right hend
    rw [hafter, List.count_append, List.count_cons_self, List.count_eq_zero.mpr hmiddle,
      List.count_eq_zero.mpr hrest]
  · intro before after n command hsplit
    obtain ⟨⟨hstart, hearly⟩, hfree⟩ := h.admitted hsplit
    have hexit : .exited n ∈ trace := ended n (by simp [hsplit, hstart])
    exact ⟨hstart, hearly, by simpa [hsplit, hearly] using hexit, hfree⟩
  · intro before after n hsplit
    exact (h.admitted hsplit).1

end Native

end StorageTopology
