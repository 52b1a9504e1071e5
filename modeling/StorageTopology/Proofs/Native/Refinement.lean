import StorageTopology.Proofs.Lvm.Words
import StorageTopology.Proofs.Native.Contexts
import StorageTopology.Proofs.Native.Outside
import StorageTopology.Proofs.Session.Simulation

/-!
# A session over the library is a session over an engine that logs itself

As long as a session has the slot, nothing tells it from one over a scripted engine that logs the
same records, without those that lack a message, directly to its sink. What is done with other
handles in between is logging outside of a request, and drains of queues (`Host.outside`).

* `Paired`: the relation within a request; `runsAlike_of_nulFree` says that a command line keeps it.
* `Matched`: the relation between requests. `Matched.request` and `Matched.elsewhere` are the steps,
  `matched_of_played` the run.
* `refines_scripted`: the answers, the command lines and the queues, for every history in which the
  handle of the session remains the one that installed its sink last (`Elsewhere`, `Played`).
-/

namespace StorageTopology.Native

open Diagnostics Engine Session

/-- The command lines that the library ran in a context, in order. -/
def handedOver (context : Nat) (trace : List Event) : List Bytes :=
  trace.filterMap fun
    | .ran n command => if n = context then some command else none
    | _ => none

theorem handedOver_append (n : Nat) (trace more : List Event) :
    handedOver n (trace ++ more) = handedOver n trace ++ handedOver n more :=
  List.filterMap_append

/-- Nothing is handed over to a context by what is run in another one. -/
theorem handedOver_ranAll_of_ne {h : Handle} {n : Nat} (hne : h.context ≠ n)
    (commands : List String) : handedOver n (Host.ranAll h commands) = [] := by
  refine List.filterMap_eq_nil_iff.mpr fun e he => ?_
  obtain ⟨bytes, -, rfl⟩ := List.mem_map.mp he
  exact if_neg hne

/-! ## Within a request -/

/-- A session over the library that has the slot, and one over a scripted engine with the same
replies. The library ran `before` and then what the scripted engine ran. -/
structure Paired (k : Sink) (h : Handle) (before : List Bytes) (x : Session Attached × Queues)
    (y : Session Scripted × Queues) : Prop where
  handle : x.1.engine.handle = h
  slot : x.1.engine.library.slot = some (h.owner, k)
  queue : x.1.queue = k.queue
  scriptedQueue : y.1.queue = k.queue
  sink : y.1.engine.sink = some k
  replies : y.1.engine.replies = x.1.engine.library.replies.map LibraryReply.scripted
  queues : x.2 = y.2
  commands : handedOver h.context x.1.engine.library.trace =
    before ++ y.1.engine.commands.map Utf8.encode

/-- The next reply of the scripted engine is the one of the library. -/
theorem head?_getD_scripted (replies : List LibraryReply) :
    (replies.map LibraryReply.scripted).head?.getD .silent =
      (replies.head?.getD .silent).scripted := by
  cases replies <;> rfl

/-- **A command line without the character zero** is run alike. -/
theorem runsAlike_of_nulFree {k : Sink} {h : Handle} {before : List Bytes} {command : String}
    (free : Lvm.NulFree command) : RunsAlike (Paired k h before) command := by
  rintro ⟨⟨⟨l, h'⟩, q⟩, qs⟩ ⟨⟨e, q'⟩, qs'⟩
    ⟨hhandle, hslot, hq, hq', hsink, hreplies, hqs, hcommands⟩
  simp only at hhandle hslot hq hq' hsink hreplies hqs hcommands
  subst hhandle hq hq' hqs
  have hreply : e.replies.head?.getD .silent = (l.replies.head?.getD .silent).scripted := by
    rw [hreplies, head?_getD_scripted]
  have hheard : (Engine.run command e qs).queues =
      l.callBackAll (l.replies.head?.getD .silent).callbacks qs := by
    show e.log (e.replies.head?.getD .silent).records qs = _
    rw [hreply, callBackAll_eq_logAll hslot]
    unfold Scripted.log
    rw [hsink]
    rfl
  simp only [Host.exec_run_of_nulFree free, exec_run, hheard]
  refine ⟨?_, rfl, hslot, rfl, rfl, hsink, ?_, rfl, ?_⟩
  · show _ = answerTo command ((e.replies.head?.getD .silent).answer.map Status.ofCode) _
    rw [hreply]
    rfl
  · show e.replies.tail = l.replies.tail.map LibraryReply.scripted
    rw [hreplies, List.map_tail]
  · show handedOver h'.context (l.trace ++ [.ran h'.context (Utf8.encode command)]) =
      before ++ (e.commands ++ [command]).map Utf8.encode
    rw [handedOver_append, hcommands, List.map_append, List.append_assoc]
    simp [handedOver]

/-- **A request without the character zero** is carried out alike. -/
theorem agree_perform_of_nulFree {k : Sink} {h : Handle} {before : List Bytes} {r : Lvm.Request}
    (free : r.NulFree) {x : Session Attached × Queues} {y : Session Scripted × Queues}
    (hxy : Paired k h before x y) :
    Agree (Paired k h before) (exec (perform r) x.1 x.2) (exec (perform r) y.1 y.2) :=
  agree_perform (fun _ hline => runsAlike_of_nulFree (Lvm.Request.nulFree_line free hline))
    (fun _ hnext _ hline =>
      runsAlike_of_nulFree (Lvm.Request.nulFree_line (free.followUp hnext) hline)) hxy

/-! ## Between requests -/

/-- The session at the position `i` of a host, with the handle `h` and the sink `k`, and a scripted
session that gave the same answers. -/
structure Matched (i : Nat) (h : Handle) (k : Sink) (before : List Bytes) (answers : List Answer)
    (p : Host) (g : Stage) : Prop where
  held : p.handles[i]? = some (.wrapped h k.queue)
  slot : p.library.slot = some (h.owner, k)
  queue : g.session.queue = k.queue
  sink : g.session.engine.sink = some k
  answers : answers = g.answers.map Host.answerOf
  queues : p.queues = g.queues
  commands : handedOver h.context p.library.trace =
    before ++ g.session.engine.commands.map Utf8.encode

variable {i : Nat} {h : Handle} {k : Sink} {before : List Bytes} {answers : List Answer}
  {p p' : Host} {g : Stage}

/-- **A request of the session** has an answer, and it is the one of the scripted session. -/
theorem Matched.request (hm : Matched i h k before answers p g) {r : Lvm.Request}
    (free : r.NulFree) (replies : List LibraryReply) :
    ∃ a p', p.stepWith replies (.perform i r) = some (a, p') ∧
      Matched i h k before (answers ++ [a]) p'
        (g.turn (.request r (replies.map LibraryReply.scripted))) := by
  let ready : Library := { p.library with replies := replies }
  let x : Session Attached × Queues := (⟨⟨ready, h⟩, k.queue⟩, p.queues)
  let y : Session Scripted × Queues := (g.ready (replies.map LibraryReply.scripted), g.queues)
  have hpaired : Paired k h before x y :=
    ⟨rfl, hm.slot, rfl, hm.queue, hm.sink, rfl, hm.queues, hm.commands⟩
  obtain ⟨hanswer, -, hslot, -, hqueue, hsink, -, hqueues, hcommands⟩ :=
    agree_perform_of_nulFree free hpaired
  refine ⟨_, _, Host.stepWith_perform_eq hm.held replies r, hm.held, hslot, hqueue, hsink, ?_,
    hqueues, hcommands⟩
  show answers ++ [Host.answerOf (exec (perform r) x.1 x.2).1] =
    (g.answers ++ [(exec (perform r) y.1 y.2).1]).map Host.answerOf
  rw [hm.answers, hanswer, List.map_append]
  rfl

/-- The position of the handle that a step is made for. -/
def Step.position? : Step → Option Nat
  | .install i _ | .run i _ | .wrap i _ _ | .unwrap i | .perform i _ | .drop i => some i
  | _ => none

/-- A step that is not made for the handle at `i` and leaves it the one that installed a sink last:
there is no install, and no handle with the same owner number is dropped. -/
structure Elsewhere (i : Nat) (p : Host) (s : Step) : Prop where
  other : s.position? ≠ some i
  install : p.install? s = none
  owner {j : Nat} {held own : Held} : s = .drop j → p.handles[j]? = some held →
    p.handles[i]? = some own → held.handle.owner ≠ own.handle.owner

/-- As long as owner numbers do not run out, to drop another handle is to drop one with another
owner number. -/
theorem elsewhere_of_few (hp : p.Numbered) (few : p.handles.length < UInt64.size) {s : Step}
    (other : s.position? ≠ some i) (install : p.install? s = none) : Elsewhere i p s := by
  refine ⟨other, install, ?_⟩
  rintro j held own rfl hheld hown howner
  have hj := (List.getElem?_eq_some_iff.mp hheld).1
  have hi := (List.getElem?_eq_some_iff.mp hown).1
  rw [hp.owner (Host.getElem?_roster hheld), hp.owner (Host.getElem?_roster hown)] at howner
  exact other (congrArg some (Host.ownerAt_injective (by omega) (by omega) howner))

/-- A step elsewhere leaves the handle as it is. -/
theorem Elsewhere.held {replies : List LibraryReply} {s : Step} {a : Answer}
    (hs : Elsewhere i p s) {own : Held} (hown : p.handles[i]? = some own)
    (hstep : p.stepWith replies s = some (a, p')) : p'.handles[i]? = some own := by
  have hlt := (List.getElem?_eq_some_iff.mp hown).1
  cases Host.taken_of_step hstep with
  | start => exact (List.getElem?_append_left hlt).trans hown
  | wrapOver | wrapOwn => exact absurd hs.install (by simp [Host.install?])
  | @unwrap j h' q hheld =>
    have hij : j ≠ i := fun hji => hs.other (congrArg some hji)
    exact (List.getElem?_set_ne hij).trans hown
  | @drop j held hheld live =>
    have hij : j ≠ i := fun hji => hs.other (congrArg some hji)
    exact (List.getElem?_set_ne hij).trans hown
  | perform request hheld => rwa [(Host.perform_steady _ _ _ request).1]
  | _ => exact hown

/-- A step elsewhere leaves the slot as it is. -/
theorem Elsewhere.slot {s : Step} (hs : Elsewhere i p s) {own : Held} {sink : Sink}
    (hown : p.handles[i]? = some own) (hslot : p.library.slot = some (own.handle.owner, sink))
    (h : Host.Change p s p') : p'.library.slot = p.library.slot := by
  cases h with
  | start _ _ slot _ _ => exact slot
  | install hstep => exact absurd (hs.install.symm.trans hstep) (by simp)
  | @drop j h' hstep live roster slot _ _ =>
    obtain ⟨held, hheld, rfl, -⟩ := Host.roster_eq_some.mp live
    have howner := hs.owner hstep hheld hown
    rw [slot, if_neg]
    rw [hslot]
    exact fun heq => howner (Option.some.inj heq).symm
  | other _ _ slot _ _ => exact slot

/-- A step elsewhere hands nothing over to the context of the handle. -/
theorem Elsewhere.handedOver {s : Step} (hs : Elsewhere i p s) (hp : p.Chronicled)
    (h : Host.Recorded p s p') :
    handedOver i p'.library.trace = handedOver i p.library.trace := by
  have quiet : ∀ {events : List Event}, p'.library.trace = p.library.trace ++ events →
      Native.handedOver i events = [] →
      Native.handedOver i p'.library.trace = Native.handedOver i p.library.trace := by
    intro events htrace hnone
    rw [htrace, handedOver_append, hnone, List.append_nil]
  cases h with
  | refuse _ _ _ trace => exact quiet trace rfl
  | start _ _ _ trace => exact quiet trace rfl
  | @ran j h' commands hstep live _ _ _ trace =>
    refine quiet trace (handedOver_ranAll_of_ne ?_ commands)
    rw [hp.context live]
    rintro rfl
    rcases hstep with ⟨command, rfl⟩ | ⟨request, rfl⟩ <;> exact hs.other rfl
  | drop _ _ _ _ trace => exact quiet trace rfl
  | quiet _ _ trace => rw [trace]

/-- **A step elsewhere** amounts to turns between requests. -/
theorem Matched.elsewhere (hm : Matched i h k before answers p g) (hp : p.Chronicled)
    {replies : List LibraryReply} {s : Step} {a : Answer} (hs : Elsewhere i p s)
    (hstep : p.stepWith replies s = some (a, p')) :
    Matched i h k before answers p' (g.after (p.outside replies s)) := by
  have hcontext : h.context = i := hp.context (Host.getElem?_roster hm.held)
  have hheld := hs.held hm.held hstep
  have hslot := hs.slot hm.held hm.slot (Host.change_stepWith hstep)
  have hcommands := hs.handedOver hp (Host.recorded_stepWith hstep)
  rw [after_outside hstep hs.install hm.slot hm.sink hm.queues]
  refine ⟨hheld, hslot.trans hm.slot, hm.queue, hm.sink, hm.answers, rfl, ?_⟩
  rw [hcontext, hcommands, ← hcontext]
  exact hm.commands

/-! ## A history of a session -/

/-- From the host `p₁`, in which the session at the position `i` was just built, to `p`: what the
session answered on the way, and the turns that a scripted session sees. Requests have no argument
with the character zero; at every step the library may have any replies ready. -/
inductive Played (i : Nat) (p₁ : Host) : List Turn → List Answer → Host → Prop where
  | built : Played i p₁ [] [] p₁
  | request {history : List Turn} {answers : List Answer} {p p' : Host} {a : Answer}
      {r : Lvm.Request} (replies : List LibraryReply) (h : Played i p₁ history answers p)
      (free : r.NulFree) (hstep : p.stepWith replies (.perform i r) = some (a, p')) :
      Played i p₁ (history ++ [.request r (replies.map LibraryReply.scripted)]) (answers ++ [a]) p'
  | elsewhere {history : List Turn} {answers : List Answer} {p p' : Host} {a : Answer} {s : Step}
      (replies : List LibraryReply) (h : Played i p₁ history answers p) (hs : Elsewhere i p s)
      (hstep : p.stepWith replies s = some (a, p')) :
      Played i p₁ (history ++ p.outside replies s) answers p'

/-- A session that was just built over a sink. -/
theorem matched_of_wrap {p₀ p₁ : Host} {replies : List LibraryReply} {queue : Option QueueId}
    {level : Int32} {a : Answer}
    (hwrap : p₀.stepWith replies (.wrap i queue level) = some (a, p₁)) :
    let k : Sink := ⟨queue.getD p₀.queues.create.1, level⟩
    ∃ h, Matched i h k (handedOver h.context p₁.library.trace) [] p₁ (.opening k p₁.queues) := by
  have held : ∀ {h : Handle} {q : QueueId}, p₀.handles[i]? = some (.raw h) →
      (p₀.handles.set i (.wrapped h q))[i]? = some (.wrapped h q) := by
    intro h q hheld
    exact List.getElem?_set_self (List.getElem?_eq_some_iff.mp hheld).1
  cases Host.taken_of_step hwrap with
  | wrapOver level hheld present =>
    exact ⟨_, held hheld, rfl, rfl, rfl, rfl, rfl, (List.append_nil _).symm⟩
  | wrapOwn level hheld =>
    exact ⟨_, held hheld, rfl, rfl, rfl, rfl, rfl, (List.append_nil _).symm⟩

theorem matched_of_played {p₁ : Host} {g₁ : Stage} (hp : p₁.Chronicled)
    (hm : Matched i h k before [] p₁ g₁) {history : List Turn}
    (hplayed : Played i p₁ history answers p) :
    p.Chronicled ∧ Matched i h k before answers p (g₁.after history) := by
  induction hplayed with
  | built => exact ⟨hp, hm⟩
  | request replies hplayed free hstep ih =>
    obtain ⟨hp, hm⟩ := ih
    obtain ⟨a, p', hstep', hm'⟩ := hm.request free replies
    obtain ⟨rfl, rfl⟩ := Prod.mk.inj (Option.some.inj (hstep.symm.trans hstep'))
    rw [Stage.after_append]
    exact ⟨hp.recorded (Host.recorded_stepWith hstep), hm'⟩
  | elsewhere replies hplayed hs hstep ih =>
    obtain ⟨hp, hm⟩ := ih
    rw [Stage.after_append]
    exact ⟨hp.recorded (Host.recorded_stepWith hstep), hm.elsewhere hp hs hstep⟩

/-- What a history of a session at the position `i` comes to, by a scripted session over the same
sink. -/
structure Refines (i : Nat) (k : Sink) (p₁ : Host) (history : List Turn) (answers : List Answer)
    (p : Host) : Prop where
  /-- The answers to the requests are the same. -/
  answers : answers = ((Stage.opening k p₁.queues).after history).answers.map Host.answerOf
  /-- All queues hold the same. -/
  queues : p.queues = ((Stage.opening k p₁.queues).after history).queues
  /-- The library ran the command lines that the scripted engine got, in the same order. -/
  commands : handedOver i p.library.trace = handedOver i p₁.library.trace ++
    ((Stage.opening k p₁.queues).after history).session.engine.commands.map Utf8.encode
  /-- The next request has an answer. -/
  next {r : Lvm.Request} (replies : List LibraryReply) : r.NulFree →
    ∃ a p', p.stepWith replies (.perform i r) = some (a, p')

/-- **A session over the library refines one over a scripted engine**: at any level, over any
queue, and whatever is done with other handles. -/
theorem refines_scripted {queues : Queues} {installs : List (Nat × Sink)} {p₀ p₁ : Host}
    (h₀ : Host.Reached queues installs p₀) {replies : List LibraryReply} {queue : Option QueueId}
    {level : Int32} {a : Answer} (hwrap : p₀.stepWith replies (.wrap i queue level) = some (a, p₁))
    {history : List Turn} (hplayed : Played i p₁ history answers p) :
    Refines i ⟨queue.getD p₀.queues.create.1, level⟩ p₁ history answers p := by
  obtain ⟨h, hopened⟩ := matched_of_wrap hwrap
  have hp₁ := Host.chronicled_of_reached (h₀.step replies _ hwrap)
  obtain ⟨-, hm⟩ := matched_of_played hp₁ hopened hplayed
  have hcontext : h.context = i := hp₁.context (Host.getElem?_roster hopened.held)
  refine ⟨hm.answers, hm.queues, ?_, ?_⟩
  · rw [← hcontext]
    exact hm.commands
  · intro r replies free
    obtain ⟨a, p', hstep, -⟩ := hm.request free replies
    exact ⟨a, p', hstep⟩

/-- A session, and another handle that runs a command line and is dropped. The session captures the
message of that command line along with its own, and nothing of a callback that has no message. -/
theorem refines_scripted_two_handles :
    let x : LibraryReply := ⟨[⟨4, some [120]⟩, ⟨4, none⟩], 1⟩
    let history : List Turn := [.log x.records, .request (.run "vgs") [x.scripted]]
    ∃ p₀ p₁ p, Host.Reached .initial [] p₀ ∧
      p₀.stepWith [] (.wrap 0 none 4) = some (.nothing, p₁) ∧
      Played 0 p₁ history [.reply (.text "x\nx\n")] p ∧
      Refines 0 ⟨1, 4⟩ p₁ history [.reply (.text "x\nx\n")] p := by
  intro x history
  let started : List Event := [.registered, .initialized 0, .registered, .initialized 1]
  let ranPvs : List Event := started ++ [.ran 1 (Utf8.encode "pvs")]
  let ranVgs : List Event := ranPvs ++ [.exited 1, .ran 0 (Utf8.encode "vgs")]
  let mine : Sink := ⟨1, 4⟩
  let p₀ : Host := ⟨⟨none, 3, 2, started, []⟩, ⟨[[]]⟩, [.raw ⟨0, 1⟩, .raw ⟨1, 2⟩]⟩
  let p₁ : Host :=
    ⟨⟨some (1, mine), 3, 2, started, []⟩, ⟨[[], []]⟩, [.wrapped ⟨0, 1⟩ 1, .raw ⟨1, 2⟩]⟩
  let p₂ : Host :=
    ⟨⟨some (1, mine), 3, 2, ranPvs, []⟩, ⟨[[], [[120]]]⟩, [.wrapped ⟨0, 1⟩ 1, .raw ⟨1, 2⟩]⟩
  let p₃ : Host := ⟨⟨some (1, mine), 3, 2, ranPvs ++ [.exited 1], []⟩, ⟨[[], [[120]]]⟩,
    [.wrapped ⟨0, 1⟩ 1, .dropped ⟨1, 2⟩]⟩
  let p₄ : Host := ⟨⟨some (1, mine), 3, 2, ranVgs, []⟩, ⟨[[], []]⟩,
    [.wrapped ⟨0, 1⟩ 1, .dropped ⟨1, 2⟩]⟩
  have h₀ : Host.Reached .initial [] p₀ :=
    (Host.Reached.initial.step [] (.start false) rfl).step [] (.start false) rfl
  have hwrap : p₀.stepWith [] (.wrap 0 none 4) = some (.nothing, p₁) := rfl
  have hrun : p₁.stepWith [x] (.run 1 "pvs") = some (.status 1, p₂) := rfl
  have hdrop : p₂.stepWith [] (.drop 1) = some (.nothing, p₃) := rfl
  have hrequest : p₃.stepWith [x] (.perform 0 (.run "vgs")) =
    some (.reply (.text "x\nx\n"), p₄) := rfl
  have numbered : p₂.Numbered :=
    (Host.owned_of_reached ((h₀.step [] _ hwrap).step [x] _ hrun) (by decide)).numbered
  have hplayed : Played 0 p₁ history [.reply (.text "x\nx\n")] p₄ := by
    have first : Elsewhere 0 p₁ (.run 1 "pvs") := ⟨by decide, rfl, nofun⟩
    have second : Elsewhere 0 p₂ (.drop 1) :=
      elsewhere_of_few numbered (by decide) (by decide) rfl
    have opened : Played 0 p₁ [] [] p₁ := .built
    exact ((opened.elsewhere [x] first hrun).elsewhere [] second hdrop).request [x] (by decide)
      hrequest
  exact ⟨p₀, p₁, p₄, h₀, hwrap, hplayed, refines_scripted h₀ hwrap hplayed⟩

end StorageTopology.Native
