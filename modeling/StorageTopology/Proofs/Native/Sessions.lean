import StorageTopology.Proofs.Native.Account

/-!
# Sessions that share the library

`Host.use` carries out the uses of sessions on a host, and `Host.useAll` a history of them.

* `use_create`, `use_run`, `use_drop`: one specification for each use.
* `Sessions`: the invariant. The host has the sessions that the account knows, each with a queue
  that holds what it is owed, and the slot is the hearer's.
* `Sessions.use`: a use that the account permits has an answer and keeps the invariant;
  `sessions_useAll` is the same for a history, and `permitsAll_of_useAll` the converse.
-/

namespace StorageTopology.Native

open Diagnostics

/-- What a run answers that captured `lines`. -/
def answered (command : String) (reply : LibraryReply) (lines : List Entry) : Answer :=
  if '\x00' ∈ command.toList then .failed (.argument (.nulInCommand command))
  else if reply.code = 1 then .reply (.text (Session.transcript lines))
  else .failed (.engine command (.ofCode reply.code) (Session.transcript lines))

namespace Host

/-- Carry out a use. A new session captures at `level` into a new queue. -/
def use (level : Int32) (p : Host) : Use → Option (Answer × Host)
  | .create => do
    let (_, started) ← p.step (.start false)
    started.step (.wrap p.handles.length none level)
  | .run i command reply => p.stepWith [reply] (.perform i (.run command))
  | .drop i => p.step (.drop i)

/-- Carry out uses in order, as long as there are the sessions for them. -/
def useAll (level : Int32) : List Use → Host → Option Host
  | [], p => some p
  | u :: us, p => do
    let (_, p) ← p.use level u
    useAll level us p

/-! ## What one use does -/

theorem numbered_use {level : Int32} {p p' : Host} {u : Use} {a : Answer} (hp : p.Numbered)
    (h : p.use level u = some (a, p')) : p'.Numbered := by
  cases u with
  | create =>
    have h : ((p.step (.start false)).bind fun x =>
      x.2.step (.wrap p.handles.length none level)) = some (a, p') := h
    obtain ⟨x, hstart, hwrap⟩ := Option.bind_eq_some_iff.mp h
    have hstarted := hp.change (change_of_taken (taken_of_step hstart))
    exact hstarted.change (change_of_taken (taken_of_step hwrap))
  | run i command reply => exact hp.change (change_stepWith h)
  | drop i =>
    have h : p.step (.drop i) = some (a, p') := h
    exact hp.change (change_of_taken (taken_of_step h))

theorem use_create (level : Int32) (p : Host) :
    ∃ p', p.use level .create = some (.nothing, p') ∧
      p'.handles = p.handles ++
        [.wrapped ⟨p.library.nextContext, p.library.nextOwner⟩ p.queues.contents.length] ∧
      p'.library.slot = some (p.library.nextOwner, ⟨p.queues.contents.length, level⟩) ∧
      p'.queues = p.queues.create.2 := by
  let h : Handle := ⟨p.library.nextContext, p.library.nextOwner⟩
  let started : Host :=
    { p with library := (p.library.start false).2, handles := p.handles ++ [.raw h] }
  have hraw : started.raw? p.handles.length = some h := by
    simp [raw?, started]
  refine ⟨{ started with queues := p.queues.create.2 }.wrap p.handles.length h
    p.queues.create.1 level, ?_, ?_, rfl, rfl⟩
  · show (started.raw? p.handles.length).bind _ = _
    rw [hraw]
    rfl
  · show (p.handles ++ [Held.raw h]).set p.handles.length (.wrapped h p.queues.contents.length) = _
    simp [h]

/-- **A run** lets the library call back, and drains the queue of the session. -/
theorem use_run {p : Host} {i : Nat} {h : Handle} {q : QueueId}
    (hheld : p.handles[i]? = some (.wrapped h q)) (level : Int32) (command : String)
    (reply : LibraryReply) :
    let cs := if '\x00' ∈ command.toList then [] else reply.callbacks
    let after := p.library.callBackAll cs p.queues
    ∃ p', p.use level (.run i command reply) =
        some (answered command reply (after.entries q), p') ∧
      p'.handles = p.handles ∧ p'.library.slot = p.library.slot ∧
      p'.queues = (after.drain q).2 := by
  intro cs after
  let ready : Library := { p.library with replies := [reply] }
  have hanswer : (ready.run h command p.queues).1 =
      if '\x00' ∈ command.toList then .error (.argument (.nulInCommand command))
      else .ok reply.code := by
    unfold Library.run
    split <;> rfl
  have hqueues : (ready.run h command p.queues).2.2 = after := Library.queues_run ready h command _
  have huse : p.use level (.run i command reply) =
      some ({ p with library := ready }.perform h q (.run command)) :=
    stepWith_perform hheld [reply] (.run command)
  -- from here on only what the library answered and where its callbacks went matters
  rw [huse, perform_eq, Session.exec_perform_run, Session.exec_run]
  refine ⟨_, congrArg some (Prod.ext ?_ rfl), rfl, Library.slot_run ready h command p.queues, ?_⟩
  · show answerOf ((Session.answerTo command
      ((ready.run h command p.queues).1.map Engine.Status.ofCode)
      ((ready.run h command p.queues).2.2.entries q)).map Lvm.Reply.text) = _
    rw [Session.answerTo_ofCode, hanswer, hqueues]
    unfold answered
    by_cases hnul : '\x00' ∈ command.toList
    · simp only [if_pos hnul]
      rfl
    · simp only [if_neg hnul]
      by_cases hcode : reply.code = 1
      · simp only [if_pos hcode]
        rfl
      · simp only [if_neg hcode]
        rfl
  · show ((ready.run h command p.queues).2.2.drain q).2 = _
    rw [hqueues]

theorem use_drop {p : Host} {i : Nat} {held : Held} (hheld : p.handles[i]? = some held)
    (live : held.isLive) (level : Int32) :
    ∃ p', p.use level (.drop i) = some (.nothing, p') ∧
      p'.handles = p.handles.set i (.dropped held.handle) ∧
      p'.library.slot =
        (if p.library.slot.map Prod.fst = some held.handle.owner then none else p.library.slot) ∧
      p'.queues = p.queues :=
  ⟨_, step_drop hheld live, rfl, Library.slot_drop _ _, rfl⟩

/-! ## The account of a host -/

/-- The sessions of a host that had `n` queues before, as the account says. -/
structure Sessions (n : Nat) (level : Int32) (acc : Account) (p : Host) : Prop where
  numbered : p.Numbered
  created : p.handles.length = acc.created
  queues : p.queues.contents.length = n + acc.created
  live (i : Nat) : p.isLive i = acc.live i
  wrapped {i : Nat} {held : Held} : p.handles[i]? = some held → held.isLive →
    held = .wrapped held.handle (n + i)
  slot : p.library.slot = acc.hearer.map fun i => (ownerAt i, ⟨n + i, level⟩)
  sound : acc.Sound
  owed (i : Nat) : p.queues.entries (n + i) = acc.owed i

theorem sessions_initial (level : Int32) (queues : Queues) :
    Sessions queues.contents.length level .initial (initial queues) := by
  refine ⟨numbered_initial queues, rfl, rfl, fun i => rfl, fun hi => absurd hi (by simp [initial]),
    rfl, Account.sound_initial, fun i => ?_⟩
  show queues.entries (queues.contents.length + i) = []
  simp [Queues.entries]

theorem Sessions.handle {n : Nat} {level : Int32} {acc : Account} {p : Host}
    (hp : Sessions n level acc p) {i : Nat} (live : acc.live i) :
    ∃ h, p.handles[i]? = some (.wrapped h (n + i)) ∧ h.owner = ownerAt i := by
  rw [← hp.live i] at live
  obtain ⟨held, hi, hheld⟩ := (Option.any_eq_true _ _).mp live
  have hwrapped := hp.wrapped hi hheld
  exact ⟨held.handle, hwrapped ▸ hi, hp.numbered.owner (getElem?_roster hi)⟩

theorem Sessions.create {n : Nat} {level : Int32} {acc : Account} {p : Host}
    (hp : Sessions n level acc p) : ∃ p', p.use level .create = some (.nothing, p') ∧
      Sessions n level (acc.follow level .create) p' := by
  obtain ⟨p', huse, hhandles, hslot, hqueues⟩ := use_create level p
  have hnew : p'.handles[p.handles.length]? = _ := hhandles ▸ List.getElem?_concat_length
  have hold : ∀ {i}, i < p.handles.length → p'.handles[i]? = p.handles[i]? := by
    intro i hi
    rw [hhandles, List.getElem?_append_left hi]
  have hnone : ∀ {i}, p.handles.length < i → p'.handles[i]? = none := by
    intro i hi
    refine List.getElem?_eq_none ?_
    rw [hhandles, List.length_append]
    exact hi
  refine ⟨p', huse, numbered_use hp.numbered huse, ?_, ?_, ?_, ?_, ?_,
    hp.sound.follow level rfl, ?_⟩
  · rw [hhandles, List.length_append, hp.created]
    rfl
  · rw [hqueues]
    simp [Queues.create, hp.queues, Account.follow, Nat.add_assoc]
  · intro i
    show _ = (acc.live i || i == acc.created)
    rw [← hp.live, ← hp.created, isLive, isLive]
    rcases Nat.lt_trichotomy i p.handles.length with hlt | rfl | hgt
    · simp [hold hlt, Nat.ne_of_lt hlt]
    · simp [hnew, Held.isLive]
    · simp [hnone hgt, List.getElem?_eq_none (Nat.le_of_lt hgt), Nat.ne_of_gt hgt]
  · intro i held hi hlive
    rcases Nat.lt_trichotomy i p.handles.length with hlt | rfl | hgt
    · exact hp.wrapped (hold hlt ▸ hi) hlive
    · obtain rfl := Option.some.inj (hnew.symm.trans hi)
      rw [hp.queues, hp.created]
      rfl
    · exact absurd hi (by simp [hnone hgt])
  · rw [hslot, hp.numbered.next, hp.queues, length_roster, hp.created]
    rfl
  · intro i
    rw [hqueues, Queues.entries_create_eq]
    exact hp.owed i

/-- Callbacks are heard by one session at most. -/
theorem Sessions.entries_callBackAll {n : Nat} {level : Int32} {acc : Account} {p : Host}
    (hp : Sessions n level acc p) (cs : List Callback) (i : Nat) :
    (p.library.callBackAll cs p.queues).entries (n + i) = acc.owed i ++
      if acc.hearer = some i then
        (cs.filter fun c => c.level = level).filterMap (·.message) else [] := by
  by_cases hi : acc.hearer = some i
  · have hslot := hp.slot
    rw [hi] at hslot
    have hpresent : n + i < p.queues.contents.length := by
      rw [hp.queues, hp.sound.hearer hi]
      exact Nat.lt_succ_self _
    rw [if_pos hi, ← hp.owed i]
    exact Library.entries_callBackAll hslot cs hpresent
  · rw [if_neg hi, List.append_nil, ← hp.owed i]
    refine Library.entries_callBackAll_of_ne ?_ cs p.queues
    intro owner sink hslot hqueue
    refine hi ?_
    rw [hp.slot] at hslot
    obtain ⟨j, hj, hsink⟩ := Option.map_eq_some_iff.mp hslot
    obtain ⟨-, rfl⟩ := Prod.mk.inj hsink
    rw [hj, Nat.add_left_cancel hqueue]

/-- **A run answers with what the session is owed and what it is told.** -/
theorem Sessions.run {n : Nat} {level : Int32} {acc : Account} {p : Host}
    (hp : Sessions n level acc p) {i : Nat} (live : acc.live i) (command : String)
    (reply : LibraryReply) :
    ∃ p', p.use level (.run i command reply) =
        some (answered command reply (acc.owed i ++ acc.told level i command reply), p') ∧
      Sessions n level (acc.follow level (.run i command reply)) p' := by
  obtain ⟨h, hheld, -⟩ := hp.handle live
  obtain ⟨p', huse, hhandles, hslot, hqueues⟩ := use_run hheld level command reply
  have hheard : ∀ k, (p.library.callBackAll
      (if '\x00' ∈ command.toList then [] else reply.callbacks) p.queues).entries (n + k) =
        acc.owed k ++ acc.told level k command reply := by
    intro k
    rw [hp.entries_callBackAll]
    unfold Account.told heard
    by_cases hk : acc.hearer = some k
    · simp only [if_pos hk]
      split <;> rfl
    · simp only [if_neg hk]
  rw [hheard i] at huse
  refine ⟨p', huse, numbered_use hp.numbered huse, ?_, ?_, ?_, ?_, ?_,
    hp.sound.follow level live, ?_⟩
  · rw [hhandles]
    exact hp.created
  · rw [hqueues, Queues.drain, Queues.length_contents_update, Library.length_contents_callBackAll]
    exact hp.queues
  · intro k
    rw [isLive, hhandles]
    exact hp.live k
  · intro k held hk
    exact hp.wrapped (hhandles ▸ hk)
  · rw [hslot]
    exact hp.slot
  · intro k
    rw [hqueues, Account.owed_run]
    by_cases hki : k = i
    · rw [if_pos hki, hki]
      exact Queues.entries_drain _ _
    · rw [if_neg hki, ← hheard k]
      exact Queues.entries_update_of_ne (fun h => hki (Nat.add_left_cancel h).symm) _ _

theorem Sessions.drop {n : Nat} {level : Int32} {acc : Account} {p : Host}
    (hp : Sessions n level acc p) {j : Nat} (live : acc.live j) :
    ∃ p', p.use level (.drop j) = some (.nothing, p') ∧
      Sessions n level (acc.follow level (.drop j)) p' := by
  obtain ⟨h, hheld, howner⟩ := hp.handle live
  obtain ⟨p', huse, hhandles, hslot, hqueues⟩ := use_drop hheld rfl level
  have hj : j < p.handles.length := (List.getElem?_eq_some_iff.mp hheld).1
  have hgone : p'.handles[j]? = some (.dropped h) := by
    rw [hhandles, List.getElem?_set_self hj]
    rfl
  have hold : ∀ {i}, i ≠ j → p'.handles[i]? = p.handles[i]? := by
    intro i hij
    rw [hhandles, List.getElem?_set_ne (Ne.symm hij)]
  refine ⟨p', huse, numbered_use hp.numbered huse, ?_, ?_, ?_, ?_, ?_,
    hp.sound.follow level live, ?_⟩
  · rw [hhandles, List.length_set]
    exact hp.created
  · rw [hqueues]
    exact hp.queues
  · intro i
    show _ = (acc.live i && i != j)
    rw [← hp.live, isLive, isLive]
    by_cases hij : i = j
    · simp [hij, hgone, Held.isLive]
    · simp [hold hij, hij]
  · intro i held hi hlive
    by_cases hij : i = j
    · obtain rfl := Option.some.inj (hgone.symm.trans (hij ▸ hi))
      exact absurd hlive (by simp [Held.isLive])
    · exact hp.wrapped (hold hij ▸ hi) hlive
  · have howner' : (Held.wrapped h (n + j)).handle.owner = ownerAt j := howner
    rw [hslot, howner', hp.slot]
    show _ = (acc.hearer.filter fun i => ownerAt i != ownerAt j).map _
    cases acc.hearer with
    | none => rfl
    | some k => by_cases hk : ownerAt k = ownerAt j <;> simp [Option.filter, hk]
  · intro i
    rw [hqueues]
    exact hp.owed i

/-- **Every use is possible exactly if the account permits it**, and keeps to the account. -/
theorem Sessions.use {n : Nat} {level : Int32} {acc : Account} {p : Host}
    (hp : Sessions n level acc p) {u : Use} (hu : acc.permits u) :
    ∃ a p', p.use level u = some (a, p') ∧ Sessions n level (acc.follow level u) p' := by
  cases u with
  | create => exact ⟨_, hp.create⟩
  | run i command reply => exact ⟨_, hp.run hu command reply⟩
  | drop j => exact ⟨_, hp.drop hu⟩

/-- A use of a session that is not there has no answer. -/
theorem Sessions.permits_of_use {n : Nat} {level : Int32} {acc : Account} {p p' : Host}
    (hp : Sessions n level acc p) {u : Use} {a : Answer} (h : p.use level u = some (a, p')) :
    acc.permits u := by
  cases u with
  | create => rfl
  | run i command reply =>
    have h : p.stepWith [reply] (.perform i (.run command)) = some (a, p') := h
    cases taken_of_step h with
    | perform request hheld =>
      show acc.live i
      have hheld : p.handles[i]? = _ := hheld
      rw [← hp.live, isLive, hheld]
      rfl
  | drop i =>
    have h : p.step (.drop i) = some (a, p') := h
    cases taken_of_step h with
    | drop hheld live =>
      show acc.live i
      rw [← hp.live, isLive, hheld]
      exact live

theorem sessions_useAll {n : Nat} {level : Int32} : ∀ (history : List Use) {acc : Account}
    {p : Host}, Sessions n level acc p → acc.permitsAll level history →
      ∃ p', p.useAll level history = some p' ∧ Sessions n level (acc.after level history) p'
  | [], acc, p, hp, _ => ⟨p, rfl, hp⟩
  | u :: us, acc, p, hp, hpermits => by
    obtain ⟨hu, hus⟩ := Bool.and_eq_true_iff.mp hpermits
    obtain ⟨a, p₁, huse, hp₁⟩ := hp.use hu
    obtain ⟨p', hrest, hp'⟩ := sessions_useAll us hp₁ hus
    exact ⟨p', Option.bind_eq_some_iff.mpr ⟨_, huse, hrest⟩, hp'⟩

theorem permitsAll_of_useAll {n : Nat} {level : Int32} : ∀ (history : List Use) {acc : Account}
    {p p' : Host}, Sessions n level acc p → p.useAll level history = some p' →
      acc.permitsAll level history
  | [], _, _, _, _, _ => rfl
  | u :: us, acc, p, p', hp, h => by
    obtain ⟨⟨a, p₁⟩, huse, hrest⟩ := Option.bind_eq_some_iff.mp h
    have hu := hp.permits_of_use huse
    obtain ⟨a', p₁', huse', hp₁⟩ := hp.use hu
    obtain ⟨-, rfl⟩ := Prod.mk.inj (Option.some.inj (huse.symm.trans huse'))
    exact Bool.and_eq_true_iff.mpr ⟨hu, permitsAll_of_useAll us hp₁ hrest⟩

end Host

end StorageTopology.Native
