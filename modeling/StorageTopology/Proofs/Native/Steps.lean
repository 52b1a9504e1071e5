import StorageTopology.Native.Host
import StorageTopology.Proofs.Session.Perform

/-!
# The steps of a host

`Host.Taken` says what a step that has an answer found and what it did, one case for each kind of
step. Seen through the handles and the slot alone there are four kinds (`Host.Change`): a context
is started and gets the next owner number, a sink is installed for a live handle, a live handle is
dropped, and everything else, which touches neither. `Host.roster` is that view of the handles.

* `taken_of_step`: a step does nothing but what its case says.
* `perform_steady`: a request in a session leaves the slot and the owner numbers alone.
* `change_of_taken`: every step is one of the four kinds.
-/

namespace StorageTopology.Native

open Diagnostics

/-- The handle that is, or was, at a position. -/
def Held.handle : Held → Handle
  | .raw h | .wrapped h _ | .dropped h => h

/-- Whether there is a handle at a position and it was not dropped. -/
def Held.isLive : Held → Bool
  | .raw _ | .wrapped _ _ => true
  | .dropped _ => false

namespace Host

/-! ## One case for each kind of step -/

theorem raw?_eq_some {p : Host} {i : Nat} {h : Handle} (hr : p.raw? i = some h) :
    p.handles[i]? = some (.raw h) := by
  unfold raw? at hr
  split at hr
  · rename_i h' hh
    obtain rfl := Option.some.inj hr
    exact hh
  · exact absurd hr (by simp)

theorem wrapped?_eq_some {p : Host} {i : Nat} {h : Handle} {q : QueueId}
    (hw : p.wrapped? i = some (h, q)) : p.handles[i]? = some (.wrapped h q) := by
  unfold wrapped? at hw
  split at hw
  · rename_i h' q' hh
    obtain ⟨rfl, rfl⟩ := Prod.mk.inj (Option.some.inj hw)
    exact hh
  · exact absurd hw (by simp)

/-- What a step that leads from `p` found there and what it did. -/
inductive Taken (p : Host) : Step → Host → Prop where
  | refuse : Taken p (.start true) { p with library := (p.library.start true).2 }
  | start : Taken p (.start false)
      { p with
        library := (p.library.start false).2
        handles := p.handles ++ [.raw ⟨p.library.nextContext, p.library.nextOwner⟩] }
  | callBack (c : Callback) :
      Taken p (.callBack c) { p with queues := p.library.callBack c p.queues }
  | install {i : Nat} {sink : Sink} {h : Handle} (hheld : p.handles[i]? = some (.raw h))
      (present : sink.queue < p.queues.contents.length) :
      Taken p (.install i sink) { p with library := p.library.install h sink }
  | run {i : Nat} {h : Handle} (command : String) (hheld : p.handles[i]? = some (.raw h)) :
      Taken p (.run i command)
        { p with
          library := (p.library.run h command p.queues).2.1
          queues := (p.library.run h command p.queues).2.2 }
  | wrapOver {i : Nat} {q : QueueId} {h : Handle} (level : Int32)
      (hheld : p.handles[i]? = some (.raw h)) (present : q < p.queues.contents.length) :
      Taken p (.wrap i (some q) level) (p.wrap i h q level)
  | wrapOwn {i : Nat} {h : Handle} (level : Int32) (hheld : p.handles[i]? = some (.raw h)) :
      Taken p (.wrap i none level)
        ({ p with queues := p.queues.create.2 }.wrap i h p.queues.create.1 level)
  | unwrap {i : Nat} {h : Handle} {q : QueueId} (hheld : p.handles[i]? = some (.wrapped h q)) :
      Taken p (.unwrap i) (p.hold i (.raw h))
  | perform {i : Nat} {h : Handle} {q : QueueId} (request : Lvm.Request)
      (hheld : p.handles[i]? = some (.wrapped h q)) :
      Taken p (.perform i request) (p.perform h q request).2
  | drop {i : Nat} {held : Held} (hheld : p.handles[i]? = some held) (live : held.isLive) :
      Taken p (.drop i)
        { p.hold i (.dropped held.handle) with library := p.library.drop held.handle }
  | drain {q : QueueId} (present : q < p.queues.contents.length) :
      Taken p (.drain q) { p with queues := (p.queues.drain q).2 }

theorem taken_of_step {p p' : Host} {s : Step} {a : Answer} (h : p.step s = some (a, p')) :
    Taken p s p' := by
  cases s with
  | start fails =>
    cases fails with
    | true =>
      obtain rfl := congrArg Prod.snd (Option.some.inj h)
      exact .refuse
    | false =>
      obtain rfl := congrArg Prod.snd (Option.some.inj h)
      exact .start
  | callBack c =>
    obtain rfl := congrArg Prod.snd (Option.some.inj h)
    exact .callBack c
  | install i sink =>
    obtain ⟨h', hraw, h⟩ := Option.bind_eq_some_iff.mp h
    split at h
    · rename_i present
      obtain rfl := congrArg Prod.snd (Option.some.inj h)
      exact .install (raw?_eq_some hraw) present
    · exact absurd h (by simp)
  | run i command =>
    obtain ⟨h', hraw, h⟩ := Option.bind_eq_some_iff.mp h
    have hrun := Taken.run (p := p) command (raw?_eq_some hraw)
    revert h hrun
    rcases p.library.run h' command p.queues with ⟨answer, l, qs⟩
    intro h hrun
    cases answer <;>
      · obtain rfl := congrArg Prod.snd (Option.some.inj h)
        exact hrun
  | wrap i queue level =>
    obtain ⟨h', hraw, h⟩ := Option.bind_eq_some_iff.mp h
    cases queue with
    | some q =>
      simp only at h
      split at h
      · rename_i present
        obtain rfl := congrArg Prod.snd (Option.some.inj h)
        exact .wrapOver level (raw?_eq_some hraw) present
      · exact absurd h (by simp)
    | none =>
      obtain rfl := congrArg Prod.snd (Option.some.inj h)
      exact .wrapOwn level (raw?_eq_some hraw)
  | unwrap i =>
    obtain ⟨⟨h', q⟩, hwrapped, h⟩ := Option.bind_eq_some_iff.mp h
    obtain rfl := congrArg Prod.snd (Option.some.inj h)
    exact .unwrap (wrapped?_eq_some hwrapped)
  | perform i request =>
    obtain ⟨⟨h', q⟩, hwrapped, h⟩ := Option.bind_eq_some_iff.mp h
    obtain rfl := congrArg Prod.snd (Option.some.inj h)
    exact .perform request (wrapped?_eq_some hwrapped)
  | drop i =>
    simp only [step] at h
    split at h
    · rename_i h' hheld
      obtain rfl := congrArg Prod.snd (Option.some.inj h)
      exact .drop hheld rfl
    · rename_i h' q hheld
      obtain rfl := congrArg Prod.snd (Option.some.inj h)
      exact .drop hheld rfl
    · exact absurd h (by simp)
  | drain q =>
    simp only [step] at h
    split at h
    · rename_i present
      obtain rfl := congrArg Prod.snd (Option.some.inj h)
      exact .drain present
    · exact absurd h (by simp)

/-- A live handle can be dropped, whatever its form. -/
theorem step_drop {p : Host} {i : Nat} {held : Held} (hheld : p.handles[i]? = some held)
    (live : held.isLive) :
    p.step (.drop i) = some (.nothing,
      { p.hold i (.dropped held.handle) with library := p.library.drop held.handle }) := by
  cases held with
  | raw h => simp [step, hheld, Held.handle]
  | wrapped h q => simp [step, hheld, Held.handle]
  | dropped h => exact absurd live (by simp [Held.isLive])

/-- A request in the session of a handle. -/
theorem stepWith_perform {p : Host} {i : Nat} {h : Handle} {q : QueueId}
    (hheld : p.handles[i]? = some (.wrapped h q)) (replies : List LibraryReply)
    (request : Lvm.Request) :
    p.stepWith replies (.perform i request) =
      some ({ p with library := { p.library with replies := replies } }.perform h q request) := by
  have hwrapped :
      { p with library := { p.library with replies := replies } }.wrapped? i = some (h, q) := by
    simp [wrapped?, hheld]
  show (wrapped? _ i).bind _ = _
  rw [hwrapped]
  rfl

/-! ## Command lines of a session -/

/-- A command line with the character zero fails, and only the queue of the session changes. -/
theorem exec_run_of_nul {command : String} (hnul : '\x00' ∈ command.toList) (l : Library)
    (h : Handle) (q : QueueId) (qs : Queues) :
    Session.exec (Session.run command) (⟨⟨l, h⟩, q⟩ : Session Attached) qs =
      (.error (.argument (.nulInCommand command)), ⟨⟨l, h⟩, q⟩, (qs.drain q).2) := by
  have hrun : l.run h command qs = (.error (.argument (.nulInCommand command)), l, qs) :=
    if_pos hnul
  rw [Session.exec_run]
  simp [Engine.run, Attached.run, hrun, Session.answerTo, Except.map]

/-- Any other command line runs in the context of the handle, with the next of the replies. -/
theorem exec_run_of_nulFree {command : String} (hfree : '\x00' ∉ command.toList) (l : Library)
    (h : Handle) (q : QueueId) (qs : Queues) :
    let reply := l.replies.head?.getD .silent
    let heard := l.callBackAll reply.callbacks qs
    Session.exec (Session.run command) (⟨⟨l, h⟩, q⟩ : Session Attached) qs =
      (Session.answerTo command (.ok (.ofCode reply.code)) (heard.entries q),
        ⟨⟨{ l.record (.ran h.context (Utf8.encode command)) with
          replies := l.replies.tail }, h⟩, q⟩, (heard.drain q).2) := by
  intro reply heard
  let after : Library :=
    { l.record (.ran h.context (Utf8.encode command)) with replies := l.replies.tail }
  have hrun : l.run h command qs = (.ok reply.code, after, heard) := by
    unfold Library.run
    rw [if_neg hfree]
    exact congrArg (fun qs => (_, after, qs)) (Library.callBackAll_congr rfl _ _)
  rw [Session.exec_run]
  simp [Engine.run, Attached.run, hrun, Except.map, after]

/-! ## Requests -/

/-- A session over a handle, seen from the slot: the slot, the next owner number, the handle, and
how many queues there are. -/
def Steady (l : Library) (h : Handle) (n : Nat) (s : Session Attached) (qs : Queues) : Prop :=
  s.engine.library.slot = l.slot ∧ s.engine.library.nextOwner = l.nextOwner ∧
    s.engine.handle = h ∧ qs.contents.length = n

theorem keeps_run_attached (l : Library) (h : Handle) (n : Nat) (command : String) :
    Session.Keeps (Steady l h n) (Session.run command : Session.Activity Attached String) := by
  rintro ⟨⟨l', h'⟩, q⟩ qs ⟨hslot, hnext, hhandle, hqs⟩
  rw [Session.exec_run]
  refine ⟨?_, ?_, hhandle, ?_⟩
  · exact (Library.slot_run l' h' command qs).trans hslot
  · exact (Library.nextOwner_run l' h' command qs).trans hnext
  · show ((l'.run h' command qs).2.2.drain q).2.contents.length = n
    rw [Queues.drain, Queues.length_contents_update, Library.queues_run,
      Library.length_contents_callBackAll]
    exact hqs

/-- The answer to a request, by what the session answered. -/
def answerOf : Except Failure Lvm.Reply → Answer
  | .ok reply => .reply reply
  | .error cause => .failed cause

/-- A request, by what the session did. -/
theorem perform_eq (p : Host) (h : Handle) (q : QueueId) (request : Lvm.Request) :
    let done := Session.exec (Session.perform request) (⟨⟨p.library, h⟩, q⟩ : Session Attached)
      p.queues
    p.perform h q request =
      (answerOf done.1, { p with library := done.2.1.engine.library, queues := done.2.2 }) := by
  intro done
  unfold perform
  simp only
  cases done.1 <;> rfl

/-- A step that carries out a request, by what the session did. -/
theorem stepWith_perform_eq {p : Host} {i : Nat} {h : Handle} {q : QueueId}
    (hheld : p.handles[i]? = some (.wrapped h q)) (replies : List LibraryReply)
    (request : Lvm.Request) :
    let done := Session.exec (Session.perform request)
      (⟨⟨{ p.library with replies := replies }, h⟩, q⟩ : Session Attached) p.queues
    p.stepWith replies (.perform i request) = some (answerOf done.1,
      { p with library := done.2.1.engine.library, queues := done.2.2 }) := by
  rw [stepWith_perform hheld, perform_eq]

/-- **A request leaves the slot, the owner numbers and the handles alone.** -/
theorem perform_steady (p : Host) (h : Handle) (q : QueueId) (request : Lvm.Request) :
    (p.perform h q request).2.handles = p.handles ∧
      (p.perform h q request).2.library.slot = p.library.slot ∧
      (p.perform h q request).2.library.nextOwner = p.library.nextOwner ∧
      (p.perform h q request).2.queues.contents.length = p.queues.contents.length := by
  have hkeeps := Session.keeps_perform (keeps_run_attached p.library h p.queues.contents.length)
    request ⟨⟨p.library, h⟩, q⟩ p.queues ⟨rfl, rfl, rfl, rfl⟩
  obtain ⟨hslot, hnext, -, hqs⟩ := hkeeps
  rw [perform_eq]
  exact ⟨rfl, hslot, hnext, hqs⟩

/-! ## Handles and the slot -/

/-- Every handle that there ever was, by position, and whether it is still live. -/
def roster (p : Host) : List (Handle × Bool) :=
  p.handles.map fun held => (held.handle, held.isLive)

/-- The install that a step makes, if it makes one: the position of the handle and the sink. -/
def install? (p : Host) : Step → Option (Nat × Sink)
  | .install i sink => some (i, sink)
  | .wrap i (some q) level => some (i, ⟨q, level⟩)
  | .wrap i none level => some (i, ⟨p.queues.create.1, level⟩)
  | _ => none

/-- What a step that leads from `p` to `p'` changes of the handles and of the slot. -/
inductive Change (p : Host) (s : Step) (p' : Host) : Prop where
  | start (hstep : s = .start false)
      (roster : p'.roster =
        p.roster ++ [(⟨p.library.nextContext, p.library.nextOwner⟩, true)])
      (slot : p'.library.slot = p.library.slot)
      (nextOwner : p'.library.nextOwner = p.library.nextOwner + 1)
      (queues : p'.queues.contents.length = p.queues.contents.length)
  | install {i : Nat} {sink : Sink} {h : Handle} (hstep : p.install? s = some (i, sink))
      (live : p.roster[i]? = some (h, true)) (roster : p'.roster = p.roster)
      (slot : p'.library.slot = some (h.owner, sink))
      (nextOwner : p'.library.nextOwner = p.library.nextOwner)
      (present : sink.queue < p'.queues.contents.length)
      (queues : p.queues.contents.length ≤ p'.queues.contents.length)
  | drop {i : Nat} {h : Handle} (hstep : s = .drop i) (live : p.roster[i]? = some (h, true))
      (roster : p'.roster = p.roster.set i (h, false))
      (slot : p'.library.slot =
        if p.library.slot.map Prod.fst = some h.owner then none else p.library.slot)
      (nextOwner : p'.library.nextOwner = p.library.nextOwner)
      (queues : p'.queues.contents.length = p.queues.contents.length)
  | other (hstep : p.install? s = none ∧ ∀ i, s ≠ .drop i) (roster : p'.roster = p.roster)
      (slot : p'.library.slot = p.library.slot)
      (nextOwner : p'.library.nextOwner = p.library.nextOwner)
      (queues : p'.queues.contents.length = p.queues.contents.length)

theorem getElem?_roster {p : Host} {i : Nat} {held : Held} (h : p.handles[i]? = some held) :
    p.roster[i]? = some (held.handle, held.isLive) := by
  simp [roster, h]

theorem roster_hold (p : Host) (i : Nat) (held : Held) :
    (p.hold i held).roster = p.roster.set i (held.handle, held.isLive) := by
  simp [roster, hold, List.map_set]

/-- To hold a live handle in another form does not change the roster. -/
theorem roster_hold_eq {p : Host} {i : Nat} {held held' : Held} (h : p.handles[i]? = some held)
    (hhandle : held'.handle = held.handle) (hlive : held'.isLive = held.isLive) :
    (p.hold i held').roster = p.roster := by
  rw [roster_hold, hhandle, hlive]
  have hi := getElem?_roster h
  obtain ⟨hlt, heq⟩ := List.getElem?_eq_some_iff.mp hi
  rw [← heq]
  exact List.set_getElem_self hlt

/-- Which replies the library has ready does not matter for what a step finds. -/
theorem install?_replies (p : Host) (replies : List LibraryReply) (s : Step) :
    install? { p with library := { p.library with replies := replies } } s = p.install? s := by
  cases s with
  | wrap i queue level => cases queue <;> rfl
  | _ => rfl

theorem change_of_taken {p p' : Host} {s : Step} (h : Taken p s p') : Change p s p' := by
  cases h with
  | refuse => exact .other ⟨rfl, by simp⟩ rfl rfl rfl rfl
  | start => exact .start rfl (by simp [roster, Held.handle, Held.isLive]) rfl rfl rfl
  | callBack c => exact .other ⟨rfl, by simp⟩ rfl rfl rfl (Library.length_contents_callBack _ _ _)
  | install hheld present =>
    exact .install rfl (getElem?_roster hheld) rfl rfl rfl present (Nat.le_refl _)
  | run command hheld =>
    refine .other ⟨rfl, by simp⟩ rfl (Library.slot_run _ _ _ _) (Library.nextOwner_run _ _ _ _) ?_
    rw [Library.queues_run, Library.length_contents_callBackAll]
  | wrapOver level hheld present =>
    exact .install rfl (getElem?_roster hheld) (roster_hold_eq hheld rfl rfl) rfl rfl present
      (Nat.le_refl _)
  | wrapOwn level hheld =>
    have hlen : p.queues.create.2.contents.length = p.queues.contents.length + 1 := by
      simp [Queues.create]
    refine .install rfl (getElem?_roster hheld) (roster_hold_eq hheld rfl rfl) rfl rfl ?_ ?_
    · show p.queues.contents.length < p.queues.create.2.contents.length
      exact hlen ▸ Nat.lt_succ_self _
    · show p.queues.contents.length ≤ p.queues.create.2.contents.length
      exact hlen ▸ Nat.le_succ _
  | unwrap hheld => exact .other ⟨rfl, by simp⟩ (roster_hold_eq hheld rfl rfl) rfl rfl rfl
  | perform request hheld =>
    obtain ⟨hhandles, hslot, hnext, hqs⟩ := perform_steady p _ _ request
    exact .other ⟨rfl, by simp⟩ (by rw [roster, hhandles]; rfl) hslot hnext hqs
  | drop hheld live =>
    have hlive := getElem?_roster hheld
    rw [live] at hlive
    exact .drop rfl hlive (roster_hold _ _ _) (Library.slot_drop _ _)
      (Library.nextOwner_drop _ _) rfl
  | drain present =>
    exact .other ⟨rfl, by simp⟩ rfl rfl rfl (Queues.length_contents_update _ _ _)

theorem change_stepWith {p p' : Host} {replies : List LibraryReply} {s : Step} {a : Answer}
    (h : p.stepWith replies s = some (a, p')) : Change p s p' := by
  cases change_of_taken (taken_of_step h) with
  | start hstep roster slot nextOwner queues => exact .start hstep roster slot nextOwner queues
  | install hstep live roster slot nextOwner present queues =>
    rw [install?_replies] at hstep
    exact .install hstep live roster slot nextOwner present queues
  | drop hstep live roster slot nextOwner queues =>
    exact .drop hstep live roster slot nextOwner queues
  | other hstep roster slot nextOwner queues =>
    rw [install?_replies] at hstep
    exact .other hstep roster slot nextOwner queues

end Host

end StorageTopology.Native
