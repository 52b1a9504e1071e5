import StorageTopology.Proofs.Native.Effects

/-!
# Who holds the slot

The library has one slot for the whole process, and any handle may write it. `Host.Reached` is
every host that steps lead to, together with the installs that were made on the way.

* `Owned`: the invariant. The handle at position `i` has the owner number `ownerAt i`, and the slot
  is what the last install wrote, unless the handle of that install was dropped since.
* `Owned.change`: every step keeps it. A handle that is dropped clears the slot only if the last
  install was made for it, because owner numbers are distinct.
* `slot_of_reached`: what this says of the slot, of callbacks and of drops.
-/

namespace StorageTopology.Native

open Diagnostics

namespace Host

/-- The hosts that steps lead to, and the installs on the way, the oldest first. At every step the
library may have any replies ready. -/
inductive Reached (queues : Queues) : List (Nat × Sink) → Host → Prop where
  | initial : Reached queues [] (initial queues)
  | step {installs : List (Nat × Sink)} {p p' : Host} {a : Answer} (replies : List LibraryReply)
      (s : Step) (h : Reached queues installs p) (hstep : p.stepWith replies s = some (a, p')) :
      Reached queues (installs ++ (p.install? s).toList) p'

/-! ## Positions, lives and owner numbers -/

/-- The owner number of the handle at a position. -/
def ownerAt (i : Nat) : UInt64 := UInt64.ofNat (i + 1)

theorem ownerAt_injective {i j : Nat} (hi : i + 1 < UInt64.size) (hj : j + 1 < UInt64.size)
    (h : ownerAt i = ownerAt j) : i = j := by
  have hnat := congrArg UInt64.toNat h
  unfold ownerAt at hnat
  rw [UInt64.toNat_ofNat_of_lt' hi, UInt64.toNat_ofNat_of_lt' hj] at hnat
  exact Nat.succ.inj hnat

/-- Whether the handle at a position is there and was not dropped. -/
def isLive (p : Host) (i : Nat) : Bool := p.handles[i]?.any Held.isLive

theorem isLive_eq (p : Host) (i : Nat) : p.isLive i = p.roster[i]?.any Prod.snd := by
  simp only [isLive, roster, List.getElem?_map]
  cases p.handles[i]? <;> rfl

theorem length_roster (p : Host) : p.roster.length = p.handles.length := List.length_map _

theorem roster_eq_some {p : Host} {i : Nat} {h : Handle} {live : Bool} :
    p.roster[i]? = some (h, live) ↔
      ∃ held, p.handles[i]? = some held ∧ held.handle = h ∧ held.isLive = live := by
  simp [roster]

theorem Change.length_le {p p' : Host} {s : Step} (h : Change p s p') :
    p.roster.length ≤ p'.roster.length := by
  cases h with
  | start _ roster _ _ _ => simp [roster]
  | install _ _ roster _ _ _ _ => exact Nat.le_of_eq (congrArg _ roster.symm)
  | drop _ _ roster _ _ _ => simp [roster]
  | other _ roster _ _ _ => exact Nat.le_of_eq (congrArg _ roster.symm)

/-- **A handle stays at its position**, and is live until the step that drops it. -/
theorem Change.stays {p p' : Host} {s : Step} {i : Nat} {h : Handle} {live : Bool}
    (hchange : Change p s p') (hi : p.roster[i]? = some (h, live)) :
    ∃ live', p'.roster[i]? = some (h, live') ∧ (live' ↔ live ∧ s ≠ .drop i) := by
  cases hchange with
  | start hstep roster _ _ _ =>
    refine ⟨live, ?_, by simp [hstep]⟩
    rw [roster, List.getElem?_append_left (List.getElem?_eq_some_iff.mp hi).1, hi]
  | install hstep _ roster _ _ _ _ =>
    refine ⟨live, by rw [roster, hi], ?_⟩
    cases s <;> simp_all [install?]
  | @drop j h' hstep hlive roster _ _ _ =>
    by_cases hij : j = i
    · subst hij
      obtain ⟨rfl, rfl⟩ := Prod.mk.inj (Option.some.inj (hi.symm.trans hlive))
      have hj : j < p.roster.length := (List.getElem?_eq_some_iff.mp hi).1
      refine ⟨false, ?_, by simp [hstep]⟩
      rw [roster, List.getElem?_set_self hj]
    · refine ⟨live, ?_, by simp [hstep, hij]⟩
      rw [roster, List.getElem?_set_ne hij, hi]
  | other hstep roster _ _ _ => exact ⟨live, by rw [roster, hi], by simp [hstep.2 i]⟩

theorem Change.isLive_iff {p p' : Host} {s : Step} {i : Nat} (h : Change p s p')
    (hi : i < p.roster.length) : p'.isLive i ↔ p.isLive i ∧ s ≠ .drop i := by
  have hhere := List.getElem?_eq_getElem hi
  obtain ⟨live', hthere, hlive⟩ := h.stays hhere
  rw [isLive_eq, isLive_eq, hhere, hthere]
  exact hlive

/-- Handles are numbered by position. -/
structure Numbered (p : Host) : Prop where
  owner {i : Nat} {h : Handle} {live : Bool} :
    p.roster[i]? = some (h, live) → h.owner = ownerAt i
  next : p.library.nextOwner = ownerAt p.roster.length

theorem numbered_initial (queues : Queues) : (initial queues).Numbered :=
  ⟨fun hi => absurd hi (by simp [roster, initial]), rfl⟩

theorem Numbered.change {p p' : Host} {s : Step} (hp : p.Numbered) (h : Change p s p') :
    p'.Numbered := by
  have old : ∀ {i h' live}, i < p.roster.length → p'.roster[i]? = some (h', live) →
      h'.owner = ownerAt i := by
    intro i h' live hlt hi
    have hhere := List.getElem?_eq_getElem hlt
    obtain ⟨live', hthere, -⟩ := h.stays hhere
    obtain ⟨rfl, -⟩ := Prod.mk.inj (Option.some.inj (hi.symm.trans hthere))
    exact hp.owner hhere
  have same : p'.roster.length = p.roster.length → p'.library.nextOwner = p.library.nextOwner →
      p'.Numbered := by
    intro hlength hnext
    refine ⟨fun hi => old (hlength ▸ (List.getElem?_eq_some_iff.mp hi).1) hi, ?_⟩
    rw [hnext, hp.next, hlength]
  cases h with
  | start hstep roster slot nextOwner queues =>
    refine ⟨?_, ?_⟩
    · intro i h' live hi
      by_cases hlt : i < p.roster.length
      · exact old hlt hi
      · have hlast := (List.getElem?_eq_some_iff.mp hi).1
        rw [roster, List.length_append, List.length_singleton] at hlast
        obtain rfl : i = p.roster.length := by omega
        rw [roster, List.getElem?_concat_length, Option.some.injEq, Prod.mk.injEq] at hi
        rw [← hi.1, hp.next]
    · rw [nextOwner, hp.next, roster, List.length_append]
      exact (UInt64.ofNat_add _ _).symm
  | install hstep live roster slot nextOwner present queues =>
    exact same (congrArg _ roster) nextOwner
  | drop hstep live roster slot nextOwner queues =>
    exact same (by rw [roster, List.length_set]) nextOwner
  | other hstep roster slot nextOwner queues => exact same (congrArg _ roster) nextOwner

theorem Numbered.distinct {p : Host} (hp : p.Numbered) (few : p.handles.length < UInt64.size) :
    (p.handles.map fun held => held.handle.owner).Nodup := by
  refine List.pairwise_iff_getElem.mpr ?_
  intro i j hi hj hij heq
  rw [List.length_map] at hi hj
  rw [List.getElem_map, List.getElem_map,
    hp.owner (getElem?_roster (List.getElem?_eq_getElem hi)),
    hp.owner (getElem?_roster (List.getElem?_eq_getElem hj))] at heq
  have hsame : i = j := ownerAt_injective (by omega) (by omega) heq
  omega

/-! ## The slot is the last install's -/

/-- The last install, as long as its handle is live. -/
def standing (p : Host) (installs : List (Nat × Sink)) : Option (Nat × Sink) :=
  installs.getLast?.filter fun x => p.isLive x.1

/-- What holds of every host that is reached. -/
structure Owned (installs : List (Nat × Sink)) (p : Host) : Prop where
  numbered : p.Numbered
  known {i : Nat} {sink : Sink} : installs.getLast? = some (i, sink) →
    i < p.roster.length ∧ sink.queue < p.queues.contents.length
  slot : p.library.slot = (p.standing installs).map fun x => (ownerAt x.1, x.2)

theorem owned_initial (queues : Queues) : Owned [] (initial queues) :=
  ⟨numbered_initial queues, fun hlast => absurd hlast (by simp), rfl⟩

theorem mem_standing {p : Host} {installs : List (Nat × Sink)} {i : Nat} {sink : Sink} :
    p.standing installs = some (i, sink) ↔ installs.getLast? = some (i, sink) ∧ p.isLive i := by
  simp [standing, Option.filter_eq_some_iff]

/-- What is in the slot, by the invariant. -/
theorem Owned.slot_eq_some {installs : List (Nat × Sink)} {p : Host} (hp : Owned installs p)
    {owner : UInt64} {sink : Sink} : p.library.slot = some (owner, sink) ↔
      ∃ i, installs.getLast? = some (i, sink) ∧ p.isLive i ∧ ownerAt i = owner := by
  rw [hp.slot]
  simp only [Option.map_eq_some_iff, Prod.exists, Prod.mk.injEq, mem_standing]
  constructor
  · rintro ⟨i, sink', ⟨hlast, hlive⟩, howner, rfl⟩
    exact ⟨i, hlast, hlive, howner⟩
  · rintro ⟨i, hlast, hlive, howner⟩
    exact ⟨i, sink, ⟨hlast, hlive⟩, howner, rfl⟩

/-- The owner number of the slot is the one of a live handle exactly if the last install was made
for that handle. -/
theorem Owned.owner_eq_iff {installs : List (Nat × Sink)} {p : Host} (hp : Owned installs p)
    (few : p.roster.length < UInt64.size) {i : Nat} {h : Handle}
    (hi : p.roster[i]? = some (h, true)) :
    p.library.slot.map Prod.fst = some h.owner ↔ ∃ sink, installs.getLast? = some (i, sink) := by
  have hlt : i < p.roster.length := (List.getElem?_eq_some_iff.mp hi).1
  rw [hp.numbered.owner hi]
  constructor
  · intro howner
    obtain ⟨⟨owner, sink⟩, hslot, rfl⟩ := Option.map_eq_some_iff.mp howner
    obtain ⟨j, hlast, -, hj⟩ := hp.slot_eq_some.mp hslot
    have hjlt : j < p.roster.length := (hp.known hlast).1
    obtain rfl : j = i := ownerAt_injective (by omega) (by omega) hj
    exact ⟨sink, hlast⟩
  · rintro ⟨sink, hlast⟩
    have hlive : p.isLive i := by
      rw [isLive_eq, hi]
      rfl
    rw [hp.slot_eq_some.mpr ⟨i, hlast, hlive, rfl⟩]
    rfl

/-- A step that keeps the slot keeps the invariant, unless it makes an install or drops the handle
of the last one. -/
theorem Owned.of_slot_eq {installs : List (Nat × Sink)} {p p' : Host} {s : Step}
    (hp : Owned installs p) (h : Change p s p')
    (hqueues : p'.queues.contents.length = p.queues.contents.length)
    (hslot : p'.library.slot = p.library.slot)
    (hother : ∀ i sink, installs.getLast? = some (i, sink) → s ≠ .drop i) :
    Owned installs p' := by
  refine ⟨hp.numbered.change h, ?_, ?_⟩
  · intro i sink hlast
    obtain ⟨hi, hsink⟩ := hp.known hlast
    exact ⟨Nat.lt_of_lt_of_le hi h.length_le, hqueues ▸ hsink⟩
  · have hstanding : p'.standing installs = p.standing installs := by
      ext ⟨i, sink⟩
      rw [mem_standing, mem_standing]
      refine and_congr_right ?_
      intro hlast
      rw [h.isLive_iff (hp.known hlast).1]
      exact and_iff_left (hother i sink hlast)
    rw [hslot, hp.slot, hstanding]

/-- To drop a handle clears the slot exactly if the last install was made for the handle. -/
theorem Owned.drop {installs : List (Nat × Sink)} {p p' : Host} {i : Nat} {h : Handle}
    (hp : Owned installs p) (few : p.roster.length < UInt64.size)
    (hlive : p.roster[i]? = some (h, true)) (hchange : Change p (.drop i) p')
    (hqueues : p'.queues.contents.length = p.queues.contents.length)
    (hslot : p'.library.slot =
      if p.library.slot.map Prod.fst = some h.owner then none else p.library.slot) :
    Owned installs p' := by
  by_cases howner : p.library.slot.map Prod.fst = some h.owner
  · obtain ⟨sink, hlast⟩ := (hp.owner_eq_iff few hlive).mp howner
    have hi : i < p.roster.length := (List.getElem?_eq_some_iff.mp hlive).1
    have hgone : p'.isLive i = false := by
      rw [Bool.eq_false_iff, ne_eq, hchange.isLive_iff hi]
      exact fun h => h.2 rfl
    refine ⟨hp.numbered.change hchange, ?_, ?_⟩
    · intro j sink' hlast'
      obtain ⟨hj, hsink⟩ := hp.known hlast'
      exact ⟨Nat.lt_of_lt_of_le hj hchange.length_le, hqueues ▸ hsink⟩
    · rw [hslot, if_pos howner, standing, hlast]
      simp [Option.filter, hgone]
  · rw [if_neg howner] at hslot
    refine hp.of_slot_eq hchange hqueues hslot ?_
    intro j sink hlast hij
    obtain rfl := Step.drop.inj hij
    exact howner ((hp.owner_eq_iff few hlive).mpr ⟨sink, hlast⟩)

/-- **Every step keeps the invariant**, as long as owner numbers do not run out. -/
theorem Owned.change {installs : List (Nat × Sink)} {p p' : Host} {s : Step}
    (hp : Owned installs p) (few : p.roster.length < UInt64.size) (h : Change p s p') :
    Owned (installs ++ (p.install? s).toList) p' := by
  have noInstall : p.install? s = none → installs ++ (p.install? s).toList = installs := by
    intro hnone
    simp [hnone]
  cases id h with
  | start hstep roster slot nextOwner queues =>
    rw [noInstall (by rw [hstep]; rfl)]
    exact hp.of_slot_eq h queues slot (by simp [hstep])
  | @install i sink h' hstep live roster slot nextOwner present queues =>
    have hlast : (installs ++ (p.install? s).toList).getLast? = some (i, sink) := by simp [hstep]
    refine ⟨hp.numbered.change h, ?_, ?_⟩
    · intro j sink' hlast'
      obtain ⟨rfl, rfl⟩ := Prod.mk.inj (Option.some.inj (hlast.symm.trans hlast'))
      exact ⟨roster ▸ (List.getElem?_eq_some_iff.mp live).1, present⟩
    · have hlive : p'.isLive i := by
        rw [isLive_eq, roster, live]
        rfl
      rw [slot, mem_standing.mpr ⟨hlast, hlive⟩, hp.numbered.owner live]
      rfl
  | drop hstep live roster slot nextOwner queues =>
    subst hstep
    rw [noInstall rfl]
    exact hp.drop few live h queues slot
  | other hstep roster slot nextOwner queues =>
    rw [noInstall hstep.1]
    exact hp.of_slot_eq h queues slot fun i _ _ => hstep.2 i

/-- The invariant holds of every host that is reached with fewer handles than owner numbers. -/
theorem owned_of_reached {queues : Queues} {installs : List (Nat × Sink)} {p : Host}
    (h : Reached queues installs p) (few : p.handles.length < UInt64.size) : Owned installs p := by
  induction h with
  | initial => exact owned_initial queues
  | step replies s h hstep ih =>
    rename_i p p' a
    have hchange := change_stepWith hstep
    have hle := hchange.length_le
    rw [length_roster, length_roster] at hle
    have few' : p.handles.length < UInt64.size := by omega
    exact (ih few').change (length_roster p ▸ few') hchange

/-! ## What this says of every host that is reached -/

/-- The slot of a host that is reached, by the installs that were made. -/
structure Routing (installs : List (Nat × Sink)) (p : Host) : Prop where
  /-- All handles that there ever were, dropped ones too, have different owner numbers. -/
  distinct : (p.handles.map fun held => held.handle.owner).Nodup
  /-- The slot is occupied exactly if there was an install and the handle of the last one is
  live. -/
  occupied : p.library.slot.isSome ↔ ∃ i sink, installs.getLast? = some (i, sink) ∧ p.isLive i
  /-- The slot holds the sink of the last install, and its owner is the live handle of that
  install. -/
  holds {owner : UInt64} {sink : Sink} : p.library.slot = some (owner, sink) →
    ∃ i held, installs.getLast? = some (i, sink) ∧ p.handles[i]? = some held ∧ held.isLive ∧
      held.handle.owner = owner
  /-- A handle is live until it is dropped, and keeps its position and its owner number. -/
  lives {i : Nat} {held : Held} {replies : List LibraryReply} {s : Step} {a : Answer} {p' : Host} :
    p.handles[i]? = some held → p.stepWith replies s = some (a, p') →
      ∃ held', p'.handles[i]? = some held' ∧ held'.handle = held.handle ∧
        (held'.isLive ↔ held.isLive ∧ s ≠ .drop i)
  /-- What a step does to the queues it does by effects, among them all callbacks of the library
  while the step takes place. -/
  effects {replies : List LibraryReply} {s : Step} {a : Answer} {p' : Host} :
    p.stepWith replies s = some (a, p') → ∃ (effects : List Effect) (used : Nat),
      p'.queues = Effect.applyAll p.library effects p.queues ∧
        effects.filterMap Effect.callback? =
          s.callbacks ++ LibraryReply.allCallbacks (replies.take used) ∧
        p'.library.replies = replies.drop used
  /-- Wherever a callback comes among effects, its message is appended to the queue of the sink
  if it has one, the slot is occupied and the level is the level of the sink. -/
  appended {owner : UInt64} {sink : Sink} {c : Callback} {message : Entry}
    (before : List Effect) : p.library.slot = some (owner, sink) → c.message = some message →
      c.level = sink.level →
      let qs := Effect.applyAll p.library before p.queues
      (p.library.callBack c qs).entries sink.queue = qs.entries sink.queue ++ [message] ∧
        ∀ q, q ≠ sink.queue → (p.library.callBack c qs).entries q = qs.entries q
  /-- In every other case a callback does nothing. -/
  ignored {c : Callback} (qs : Queues) : (c.message = none ∨ p.library.slot = none ∨
      ∃ owner sink, p.library.slot = some (owner, sink) ∧ c.level ≠ sink.level) →
    p.library.callBack c qs = qs
  /-- To drop a handle that the last install was not made for leaves the slot as it is. -/
  dropOther {i : Nat} {replies : List LibraryReply} {a : Answer} {p' : Host} :
    (∀ sink, installs.getLast? ≠ some (i, sink)) →
      p.stepWith replies (.drop i) = some (a, p') → p'.library.slot = p.library.slot

theorem Owned.slot_of_drop_other {installs : List (Nat × Sink)} {p p' : Host} {i : Nat}
    (hp : Owned installs p) (few : p.roster.length < UInt64.size)
    (hother : ∀ sink, installs.getLast? ≠ some (i, sink)) (h : Change p (.drop i) p') :
    p'.library.slot = p.library.slot := by
  cases h with
  | start hstep => exact absurd hstep (by simp)
  | install hstep => exact absurd hstep (by simp [install?])
  | other hstep => exact absurd rfl (hstep.2 i)
  | drop hstep hlive _ slot _ _ =>
    obtain rfl := Step.drop.inj hstep
    rw [slot, if_neg]
    rw [hp.owner_eq_iff few hlive]
    exact fun ⟨sink, hlast⟩ => hother sink hlast

/-- **The slot belongs to the last install**: whatever steps were taken by however many handles,
as long as owner numbers did not run out. -/
theorem slot_of_reached {queues : Queues} {installs : List (Nat × Sink)} {p : Host}
    (h : Reached queues installs p) (few : p.handles.length < UInt64.size) :
    p.Routing installs := by
  have hp := owned_of_reached h few
  refine ⟨hp.numbered.distinct few, ⟨?_, ?_⟩, ?_, ?_, ?_, ?_, ?_, ?_⟩
  · intro hsome
    obtain ⟨⟨owner, sink⟩, hslot⟩ := Option.isSome_iff_exists.mp hsome
    obtain ⟨i, hlast, hlive, -⟩ := hp.slot_eq_some.mp hslot
    exact ⟨i, sink, hlast, hlive⟩
  · rintro ⟨i, sink, hlast, hlive⟩
    exact Option.isSome_iff_exists.mpr ⟨_, hp.slot_eq_some.mpr ⟨i, hlast, hlive, rfl⟩⟩
  · intro owner sink hslot
    obtain ⟨i, hlast, hlive, howner⟩ := hp.slot_eq_some.mp hslot
    obtain ⟨held, hi, hheld⟩ := (Option.any_eq_true _ _).mp hlive
    exact ⟨i, held, hlast, hi, hheld, (hp.numbered.owner (getElem?_roster hi)).trans howner⟩
  · intro i held replies s a p' hi hstep
    obtain ⟨live', hi', hiff⟩ := (change_stepWith hstep).stays (getElem?_roster hi)
    obtain ⟨held', hheld', hhandle, hlive⟩ := roster_eq_some.mp hi'
    exact ⟨held', hheld', hhandle, hlive ▸ hiff⟩
  · intro replies s a p' hstep
    exact traced_of_taken (taken_of_step hstep)
  · intro owner sink c message before hslot hmessage hlevel qs
    obtain ⟨i, hlast, -, -⟩ := hp.slot_eq_some.mp hslot
    -- effects take no queue away, so the sink's queue is still there when the callback comes
    have hpresent := Nat.lt_of_lt_of_le (hp.known hlast).2
      (Effect.length_contents_applyAll p.library before p.queues)
    rw [Library.callBack_eq_push hslot hmessage hlevel]
    exact ⟨Queues.entries_push_self hpresent _, fun q hq => Queues.entries_push_of_ne hq.symm _ _⟩
  · intro c qs hnot
    exact Library.callBack_eq_self hnot qs
  · intro i replies a p' hother hstep
    exact hp.slot_of_drop_other (length_roster p ▸ few) hother (change_stepWith hstep)

/-- Two handles install sinks, and the older one is dropped: the slot stays with the newer one. -/
theorem slot_of_reached_two_handles :
    let older : Sink := ⟨0, 4⟩
    let newer : Sink := ⟨1, 4⟩
    ∃ p, Reached ⟨[[], []]⟩ [(0, older), (1, newer)] p ∧ p.handles.length < UInt64.size ∧
      p.library.slot = some (2, newer) ∧ p.isLive 0 = false ∧
      p.Routing [(0, older), (1, newer)] := by
  intro older newer
  have h₀ : Reached ⟨[[], []]⟩ [] (initial ⟨[[], []]⟩) := .initial
  have h₁ := h₀.step [] (.start false) rfl
  have h₂ := h₁.step [] (.start false) rfl
  have h₃ := h₂.step [] (.install 0 older) rfl
  have h₄ := h₃.step [] (.install 1 newer) rfl
  have h₅ := h₄.step [] (.drop 0) rfl
  exact ⟨_, h₅, by decide, rfl, rfl, slot_of_reached h₅ (by decide)⟩

end Host

end StorageTopology.Native
