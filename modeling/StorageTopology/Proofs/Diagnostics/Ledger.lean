import StorageTopology.Diagnostics.Client

/-!
# What goes into a queue comes out of it

Clients use queues through handles and sinks, in any order and with any number of handles to one
queue. `Clients.put` and `Clients.taken` say what one operation, given its answer, moves into and
out of the queue that it uses (`Clients.target?`), and a `Ledger` keeps the account of a run: for
every queue what went in, with the client that put it in, and what came out.

* `step_uses`: an operation on a queue changes no other queue, and takes from the front what it
  takes, and puts at the end what it puts.
* `step_holds`: an operation that only makes handles or sinks leaves every queue as it is.
* `isSome_step_iff`: an operation has an answer exactly if its handle or its sink is there.
* `fresh_new`: a new queue is one that nobody has used.
* `run_balanced`: in every run and for every queue the account balances.
-/

namespace StorageTopology.Diagnostics

namespace Clients

/-! ## What one operation moves -/

/-- The queue that an operation uses, if it uses one. -/
def target? (c : Clients) : Operation → Option QueueId
  | .new | .global | .clone _ | .sink _ _ => none
  | .push h _ | .tryPush h _ | .pop h | .tryPop h | .isEmpty h | .length h | .dropped h
  | .drain h | .reset h => c.handles[h]?
  | .accepts s _ | .log s _ => c.sinks[s]?.map (·.queue)

/-- What an operation puts into its queue, with the zero byte at its end. An entry that is given
back was not put in, and a record only counts at the level of its sink. -/
def put (c : Clients) : Operation → Answer → List Bytes
  | .push _ e, _ => [e.terminated]
  | .tryPush _ e, .entry none => [e.terminated]
  | .log s r, _ =>
    match c.sinks[s]? with
    | some sink => if r.level = sink.level then [r.message.terminated] else []
    | none => []
  | _, _ => []

/-- What an operation takes out of its queue: what it answers with, or what it discards. -/
def taken (c : Clients) : Operation → Answer → List Bytes
  | .pop _, .entry e => e.toList.map Entry.terminated
  | .tryPop _, .terminated bytes => [bytes]
  | .drain _, .entries es => es.map Entry.terminated
  | .reset h, _ =>
    match c.handles[h]? with
    | some q => (c.queues.entries q).map Entry.terminated
    | none => []
  | _, _ => []

/-- The handle or the sink that an operation goes through is there. -/
def Has (c : Clients) : Operation → Prop
  | .new | .global => True
  | .clone h | .sink h _ | .push h _ | .tryPush h _ | .pop h | .tryPop h | .isEmpty h | .length h
  | .dropped h | .drain h | .reset h => h < c.handles.length
  | .accepts s _ | .log s _ => s < c.sinks.length

theorem isSome_atHandle (c : Clients) (h : Nat) (act : QueueId → Answer × Queues) :
    (c.atHandle h act).isSome ↔ h < c.handles.length := by
  by_cases hlt : h < c.handles.length <;> simp [atHandle, hlt]

theorem isSome_step_iff (c : Clients) (op : Operation) : (c.step op).isSome ↔ c.Has op := by
  cases op with
  | new | global => simp [step, Has]
  | clone h | sink h level =>
    by_cases hlt : h < c.handles.length <;> simp [step, Has, hlt]
  | accepts s level | log s r =>
    by_cases hlt : s < c.sinks.length <;> simp [step, Has, hlt]
  | push h e | tryPush h e | pop h | tryPop h | isEmpty h | length h | dropped h | drain h
  | reset h => simp only [step, Has, isSome_atHandle]

/-- All that there is stays in its place, and more may come behind it. -/
structure Extends (c c' : Clients) : Prop where
  handles : c.handles <+: c'.handles
  sinks : c.sinks <+: c'.sinks
  queues : c.queues.contents.length ≤ c'.queues.contents.length

/-- Handles and sinks refer to queues that are there, and so does the handle of the process. -/
structure Sound (c : Clients) : Prop where
  process : Queues.globalId < c.queues.contents.length
  handles : ∀ q ∈ c.handles, q < c.queues.contents.length
  sinks : ∀ s ∈ c.sinks, s.queue < c.queues.contents.length

theorem sound_initial : Clients.initial.Sound :=
  ⟨by decide, by decide, by decide⟩

theorem Sound.target {c : Clients} (hc : c.Sound) {op : Operation} {q : QueueId}
    (h : c.target? op = some q) : q < c.queues.contents.length := by
  cases op <;> simp only [target?, Option.map_eq_some_iff, reduceCtorEq] at h
  case accepts | log =>
    obtain ⟨sink, hs, rfl⟩ := h
    exact hc.sinks sink (List.mem_of_getElem? hs)
  all_goals exact hc.handles q (List.mem_of_getElem? h)

/-- What an operation through a handle does. -/
theorem atHandle_eq {c c' : Clients} {h : Nat} {q : QueueId} {a : Answer}
    {act : QueueId → Answer × Queues} (hq : c.handles[h]? = some q)
    (hstep : c.atHandle h act = some (a, c')) :
    a = (act q).1 ∧ c' = { c with queues := (act q).2 } := by
  simp only [atHandle, hq, Option.bind_eq_bind, Option.bind_some, Option.some.injEq,
    Prod.mk.injEq] at hstep
  exact ⟨hstep.1.symm, hstep.2.symm⟩

/-- **An operation on the queue `q`** changes the entries of `q` alone: what it takes is what was
at the front, and what it puts is at the end. -/
theorem step_uses {c c' : Clients} {op : Operation} {a : Answer} {q : QueueId}
    (hstep : c.step op = some (a, c')) (hq : c.target? op = some q) :
    ∃ f : List Entry → List Entry, c' = { c with queues := c.queues.update q f } ∧
      c.taken op a ++ (f (c.queues.entries q)).map Entry.terminated =
        (c.queues.entries q).map Entry.terminated ++ c.put op a := by
  have unchanged : c.queues.update q id = c.queues := by simp [Queues.update]
  cases op with
  | new | global | clone h | sink h level => simp [target?] at hq
  | push h e =>
    simp only [step] at hstep
    obtain ⟨rfl, rfl⟩ := atHandle_eq hq hstep
    exact ⟨_, rfl, by simp [taken, put]⟩
  | tryPush h e =>
    simp only [step] at hstep
    obtain ⟨rfl, rfl⟩ := atHandle_eq hq hstep
    exact ⟨_, rfl, by simp [taken, put, Queues.tryPush]⟩
  | pop h =>
    simp only [step] at hstep
    obtain ⟨rfl, rfl⟩ := atHandle_eq hq hstep
    refine ⟨List.tail, rfl, ?_⟩
    cases hes : c.queues.entries q <;> simp [taken, put, Queues.pop, hes]
  | tryPop h =>
    simp only [step] at hstep
    obtain ⟨rfl, rfl⟩ := atHandle_eq hq hstep
    refine ⟨List.tail, ?_, ?_⟩
    · cases hes : c.queues.entries q <;> simp [Queues.tryPop, Queues.pop, hes]
    · cases hes : c.queues.entries q <;> simp [taken, put, Queues.tryPop, Queues.pop, hes]
  | drain h =>
    simp only [step] at hstep
    obtain ⟨rfl, rfl⟩ := atHandle_eq hq hstep
    exact ⟨fun _ => [], rfl, by simp [taken, put, Queues.drain]⟩
  | reset h =>
    simp only [step] at hstep
    obtain ⟨rfl, rfl⟩ := atHandle_eq hq hstep
    have hh : c.handles[h]? = some q := hq
    exact ⟨fun _ => [], rfl, by simp [taken, put, hh]⟩
  | isEmpty h | length h | dropped h =>
    simp only [step] at hstep
    obtain ⟨rfl, rfl⟩ := atHandle_eq hq hstep
    exact ⟨id, by rw [unchanged], by simp [taken, put]⟩
  | accepts s level =>
    obtain ⟨sink, hs, rfl⟩ := Option.map_eq_some_iff.mp hq
    simp only [step, hs, Option.bind_eq_bind, Option.bind_some, Option.some.injEq,
      Prod.mk.injEq] at hstep
    obtain ⟨rfl, rfl⟩ := hstep
    exact ⟨id, by rw [unchanged], by simp [taken, put]⟩
  | log s r =>
    obtain ⟨sink, hs, rfl⟩ := Option.map_eq_some_iff.mp hq
    simp only [step, hs, Option.bind_eq_bind, Option.bind_some, Option.some.injEq,
      Prod.mk.injEq] at hstep
    obtain ⟨rfl, rfl⟩ := hstep
    by_cases hlevel : r.level = sink.level
    · refine ⟨(· ++ [r.message]), ?_, by simp [taken, put, hs, hlevel]⟩
      simp [Sink.log, Sink.accepts, hlevel, Queues.push]
    · refine ⟨id, ?_, by simp [taken, put, hs, hlevel]⟩
      simp [Sink.log, Sink.accepts, hlevel, unchanged]

/-- **An operation that uses no queue** makes a handle or a sink, and maybe a new queue for it. It
leaves every queue as it is. -/
theorem step_holds {c c' : Clients} {op : Operation} {a : Answer} (hc : c.Sound)
    (hstep : c.step op = some (a, c')) (hq : c.target? op = none) :
    c'.Sound ∧ c.Extends c' ∧ ∀ q, c'.queues.entries q = c.queues.entries q := by
  have held : ∀ q, q < c.queues.contents.length → Sound { c with handles := c.handles ++ [q] } := by
    intro q hlt
    refine ⟨hc.process, ?_, hc.sinks⟩
    intro r hr
    rcases List.mem_append.mp hr with hr | hr
    · exact hc.handles r hr
    · exact List.mem_singleton.mp hr ▸ hlt
  cases op with
  | new =>
    simp only [step, hold, Option.some.injEq, Prod.mk.injEq] at hstep
    obtain ⟨-, rfl⟩ := hstep
    have hlen : c.queues.create.2.contents.length = c.queues.contents.length + 1 := by
      simp [Queues.create]
    refine ⟨⟨?_, ?_, ?_⟩, ⟨List.prefix_append _ _, List.prefix_rfl, hlen ▸ Nat.le_succ _⟩,
      c.queues.entries_create_eq⟩
    · exact hlen ▸ Nat.lt_succ_of_lt hc.process
    · intro r hr
      rcases List.mem_append.mp hr with hr | hr
      · exact hlen ▸ Nat.lt_succ_of_lt (hc.handles r hr)
      · rw [List.mem_singleton.mp hr, hlen]
        exact Nat.lt_succ_self _
    · intro s hs
      exact hlen ▸ Nat.lt_succ_of_lt (hc.sinks s hs)
  | global =>
    simp only [step, hold, Option.some.injEq, Prod.mk.injEq] at hstep
    obtain ⟨-, rfl⟩ := hstep
    exact ⟨held _ hc.process, ⟨List.prefix_append _ _, List.prefix_rfl, Nat.le_refl _⟩,
      fun _ => rfl⟩
  | clone h =>
    obtain ⟨q, hh, hstep⟩ := Option.bind_eq_some_iff.mp hstep
    simp only [hold, Option.some.injEq, Prod.mk.injEq] at hstep
    obtain ⟨-, rfl⟩ := hstep
    exact ⟨held q (hc.handles q (List.mem_of_getElem? hh)),
      ⟨List.prefix_append _ _, List.prefix_rfl, Nat.le_refl _⟩, fun _ => rfl⟩
  | sink h level =>
    obtain ⟨q, hh, hstep⟩ := Option.bind_eq_some_iff.mp hstep
    simp only [Option.some.injEq, Prod.mk.injEq] at hstep
    obtain ⟨-, rfl⟩ := hstep
    refine ⟨⟨hc.process, hc.handles, ?_⟩,
      ⟨List.prefix_rfl, List.prefix_append _ _, Nat.le_refl _⟩, fun _ => rfl⟩
    intro s hs
    rcases List.mem_append.mp hs with hs | hs
    · exact hc.sinks s hs
    · rw [List.mem_singleton.mp hs]
      exact hc.handles q (List.mem_of_getElem? hh)
  | push h e | tryPush h e | pop h | tryPop h | isEmpty h | length h | dropped h | drain h
  | reset h =>
    simp only [target?] at hq
    simp [step, atHandle, hq] at hstep
  | accepts s level | log s r =>
    simp only [target?, Option.map_eq_none_iff] at hq
    simp [step, hq] at hstep

/-- Every operation keeps the clients sound. -/
theorem Sound.step {c c' : Clients} {op : Operation} {a : Answer} (hc : c.Sound)
    (hstep : c.step op = some (a, c')) : c'.Sound := by
  cases hq : c.target? op with
  | none => exact (step_holds hc hstep hq).1
  | some q =>
    obtain ⟨f, rfl, -⟩ := step_uses hstep hq
    have hlen := Queues.length_contents_update c.queues q f
    exact ⟨hlen ▸ hc.process, fun r hr => hlen ▸ hc.handles r hr, fun s hs => hlen ▸ hc.sinks s hs⟩

/-- Handles and sinks stay what they are. -/
theorem extends_step {c c' : Clients} {op : Operation} {a : Answer} (hc : c.Sound)
    (hstep : c.step op = some (a, c')) : c.Extends c' := by
  cases hq : c.target? op with
  | none => exact (step_holds hc hstep hq).2.1
  | some q =>
    obtain ⟨f, rfl, -⟩ := step_uses hstep hq
    exact ⟨List.prefix_rfl, List.prefix_rfl,
      Nat.le_of_eq (Queues.length_contents_update c.queues q f).symm⟩

/-- An operation leaves every queue that it does not use as it is. -/
theorem entries_step_of_ne {c c' : Clients} {op : Operation} {a : Answer} {q : QueueId}
    (hc : c.Sound) (hstep : c.step op = some (a, c')) (hq : c.target? op ≠ some q) :
    c'.queues.entries q = c.queues.entries q := by
  cases htarget : c.target? op with
  | none => exact (step_holds hc hstep htarget).2.2 q
  | some r =>
    obtain ⟨f, rfl, -⟩ := step_uses hstep htarget
    exact Queues.entries_update_of_ne (fun h => hq (htarget.trans (congrArg some h))) _ _

/-- **One operation conserves the queue that it uses.** -/
theorem taken_append_entries_step {c c' : Clients} {op : Operation} {a : Answer} {q : QueueId}
    (hc : c.Sound) (hstep : c.step op = some (a, c')) (hq : c.target? op = some q) :
    c.taken op a ++ (c'.queues.entries q).map Entry.terminated =
      (c.queues.entries q).map Entry.terminated ++ c.put op a := by
  obtain ⟨f, rfl, h⟩ := step_uses hstep hq
  rw [Queues.entries_update_self (hc.target hq)]
  exact h

end Clients

/-! ## The account of a run -/

/-- The clients, and for every queue what went in, with the client that put it in, and what came
out. -/
structure Ledger where
  clients : Clients
  put : QueueId → List (Nat × Bytes)
  taken : QueueId → List Bytes

namespace Ledger

/-- The clients at the start, before anything moved. -/
def initial : Ledger := ⟨.initial, fun _ => [], fun _ => []⟩

/-- Carry out one operation of a client and enter what it moved under the queue that it used. -/
def step (l : Ledger) (client : Nat) (op : Operation) : Option (Answer × Ledger) := do
  let (answer, c) ← l.clients.step op
  let put := (l.clients.put op answer).map fun bytes => (client, bytes)
  let taken := l.clients.taken op answer
  some (answer, {
    clients := c
    put := fun q => if l.clients.target? op = some q then l.put q ++ put else l.put q
    taken := fun q => if l.clients.target? op = some q then l.taken q ++ taken else l.taken q })

/-- Carry out the operations of all clients in the order in which they took place. -/
def run : List (Nat × Operation) → Ledger → Option Ledger
  | [], l => some l
  | (client, op) :: ops, l => do
    let (_, l) ← l.step client op
    run ops l

/-- The entries of a queue, each with its zero byte. -/
def inside (l : Ledger) (q : QueueId) : List Bytes :=
  (l.clients.queues.entries q).map Entry.terminated

/-- The queue `r` is there once the clients are `c`, with a handle of its own, and was never
used. -/
structure Fresh (l : Ledger) (r : QueueId) (c : Clients) : Prop where
  handles : c.handles = l.clients.handles ++ [r]
  sinks : c.sinks = l.clients.sinks
  /-- No other handle and no sink is for it, and it is not the queue of the process. -/
  notHandled : r ∉ l.clients.handles
  notSunk : ∀ s ∈ l.clients.sinks, s.queue ≠ r
  notProcess : r ≠ Queues.globalId
  /-- Nothing is inside, nothing went in and nothing came out. -/
  nothingInside : c.queues.entries r = []
  nothingPut : l.put r = []
  nothingTaken : l.taken r = []
  /-- The queues that were there are as they were. -/
  others : ∀ q, c.queues.entries q = l.clients.queues.entries q

/-- The account of a queue. -/
structure Balanced (l : Ledger) (q : QueueId) : Prop where
  /-- Nothing is lost, doubled or moved out of its place. -/
  conserved : l.taken q ++ l.inside q = (l.put q).map Prod.snd
  /-- The entries of one client, known by their bytes, come out in the order it put them in. -/
  inOrder (client : Nat) (own : Bytes → Bool) :
    (∀ x ∈ l.put q, own x.2 = decide (x.1 = client)) →
      (l.taken q).filter own ++ (l.inside q).filter own =
        ((l.put q).filter fun x => x.1 = client).map Prod.snd
  /-- What is done to other queues does not touch this one. -/
  apart {op : Operation} {answer : Answer} {c : Clients} :
    l.clients.step op = some (answer, c) → l.clients.target? op ≠ some q →
      c.queues.entries q = l.clients.queues.entries q
  /-- An operation is carried out exactly if its handle or its sink is there. -/
  answered (op : Operation) : (l.clients.step op).isSome ↔ l.clients.Has op
  /-- Nothing is refused and nothing inside is withheld: through every handle to the queue, a pop
  gives what has been inside longest, and a drain gives everything. -/
  offered {h : Nat} : l.clients.handles[h]? = some q →
    ((∀ e, (l.clients.step (.tryPush h e)).map Prod.fst = some (.entry none)) ∧
      (l.clients.step (.pop h)).map Prod.fst = some (.entry (l.clients.queues.entries q).head?) ∧
      (l.clients.step (.tryPop h)).map Prod.fst =
        some (match l.inside q with
          | bytes :: _ => .terminated bytes
          | [] => .failed .popOnEmpty) ∧
      (l.clients.step (.drain h)).map Prod.fst = some (.entries (l.clients.queues.entries q)))
  /-- Handles and sinks stay with their queues. -/
  steady {op : Operation} {answer : Answer} {c : Clients} :
    l.clients.step op = some (answer, c) →
      l.clients.handles <+: c.handles ∧ l.clients.sinks <+: c.sinks
  /-- Clones of a handle to the queue and sinks over it are for the queue, and change nothing. -/
  shared {h : Nat} : l.clients.handles[h]? = some q →
    (l.clients.step (.clone h) = some (.handle l.clients.handles.length,
      { l.clients with handles := l.clients.handles ++ [q] })) ∧
    ∀ level, l.clients.step (.sink h level) = some (.sink l.clients.sinks.length level,
      { l.clients with sinks := l.clients.sinks ++ [⟨q, level⟩] })
  /-- There is one queue of the process: whoever asks for it gets a handle to the same queue. -/
  process : l.clients.step .global = some (.handle l.clients.handles.length,
    { l.clients with handles := l.clients.handles ++ [Queues.globalId] })
  /-- There can always be one more queue, apart from all that there are. -/
  fresh : ∃ r c, l.clients.step .new = some (.handle l.clients.handles.length, c) ∧ l.Fresh r c

theorem step_eq {l l' : Ledger} {client : Nat} {op : Operation} {answer : Answer}
    (h : l.step client op = some (answer, l')) :
    l.clients.step op = some (answer, l'.clients) ∧
    (∀ q, l'.put q = if l.clients.target? op = some q then
      l.put q ++ (l.clients.put op answer).map fun bytes => (client, bytes) else l.put q) ∧
    ∀ q, l'.taken q = if l.clients.target? op = some q then
      l.taken q ++ l.clients.taken op answer else l.taken q := by
  obtain ⟨⟨a, c⟩, hc, hl⟩ := Option.bind_eq_some_iff.mp h
  simp only [Option.some.injEq, Prod.mk.injEq] at hl
  obtain ⟨rfl, rfl⟩ := hl
  exact ⟨hc, fun _ => rfl, fun _ => rfl⟩

/-- The clients are sound, every account is conserved, and there is none of a queue to come. -/
structure Kept (l : Ledger) : Prop where
  sound : l.clients.Sound
  conserved : ∀ q, l.taken q ++ l.inside q = (l.put q).map Prod.snd
  unborn : ∀ q, l.clients.queues.contents.length ≤ q → l.put q = [] ∧ l.taken q = []

theorem kept_initial : initial.Kept := by
  refine ⟨Clients.sound_initial, ?_, fun _ _ => ⟨rfl, rfl⟩⟩
  intro q
  have hempty : Clients.initial.queues.entries q = [] :=
    Queues.entries_create_eq Queues.initial q |>.trans (by cases q <;> rfl)
  simp [inside, initial, hempty]

/-- **One operation keeps the accounts.** -/
theorem kept_step {l l' : Ledger} (hl : l.Kept) {client : Nat} {op : Operation} {answer : Answer}
    (h : l.step client op = some (answer, l')) : l'.Kept := by
  obtain ⟨hstep, hput, htaken⟩ := step_eq h
  refine ⟨hl.sound.step hstep, fun q => ?_, fun q hq => ?_⟩ <;> rw [hput q, htaken q]
  · by_cases hq : l.clients.target? op = some q
    · have hone := Clients.taken_append_entries_step hl.sound hstep hq
      rw [if_pos hq, if_pos hq, List.append_assoc]
      show l.taken q ++ (l.clients.taken op answer ++ l'.inside q) = _
      rw [inside, hone, ← List.append_assoc]
      show (l.taken q ++ l.inside q) ++ _ = _
      rw [hl.conserved q, List.map_append, List.map_map]
      exact congrArg _ (List.map_id _).symm
    · rw [if_neg hq, if_neg hq, inside, Clients.entries_step_of_ne hl.sound hstep hq]
      exact hl.conserved q
  · have hle := Nat.le_trans (Clients.extends_step hl.sound hstep).queues hq
    have hother : l.clients.target? op ≠ some q := fun htarget =>
      absurd (hl.sound.target htarget) (Nat.not_lt_of_le hle)
    rw [if_neg hother, if_neg hother]
    exact hl.unborn q hle

theorem kept_run : ∀ (ops : List (Nat × Operation)) {l l' : Ledger}, l.Kept →
    l.run ops = some l' → l'.Kept
  | [], l, l', hl, h => Option.some.inj h ▸ hl
  | (client, op) :: ops, l, l', hl, h => by
    obtain ⟨⟨answer, m⟩, hstep, hrest⟩ := Option.bind_eq_some_iff.mp h
    exact kept_run ops (kept_step hl hstep) hrest

/-- **A new queue** is one that nobody has used. -/
theorem fresh_new {l : Ledger} (hl : l.Kept) :
    ∃ r c, l.clients.step .new = some (.handle l.clients.handles.length, c) ∧ l.Fresh r c := by
  refine ⟨l.clients.queues.contents.length, _, rfl, rfl, rfl, ?_, ?_, ?_, ?_, ?_, ?_, ?_⟩
  · intro hmem
    exact absurd (hl.sound.handles _ hmem) (Nat.lt_irrefl _)
  · intro s hs
    exact Nat.ne_of_lt (hl.sound.sinks s hs)
  · exact Nat.ne_of_gt hl.sound.process
  · exact Queues.entries_create l.clients.queues
  · exact (hl.unborn _ (Nat.le_refl _)).1
  · exact (hl.unborn _ (Nat.le_refl _)).2
  · exact Queues.entries_create_eq l.clients.queues

/-- **Every run balances**: however the operations of all clients are interleaved, and however
many queues, handles and sinks there are, the account of every queue is balanced. -/
theorem run_balanced {ops : List (Nat × Operation)} {l : Ledger}
    (h : Ledger.initial.run ops = some l) (q : QueueId) : l.Balanced q := by
  have hl : l.Kept := kept_run ops kept_initial h
  refine ⟨hl.conserved q, ?_, ?_, l.clients.isSome_step_iff, ?_, ?_, ?_, rfl, fresh_new hl⟩
  · intro client own hown
    rw [← List.filter_append, hl.conserved q, List.filter_map]
    refine congrArg _ (List.filter_congr ?_)
    intro x hx
    exact hown x hx
  · intro op answer c hstep hq
    exact Clients.entries_step_of_ne hl.sound hstep hq
  · intro h hh
    refine ⟨fun e => ?_, ?_, ?_, ?_⟩
    · simp [Clients.step, Clients.atHandle, hh, Queues.tryPush]
    · simp [Clients.step, Clients.atHandle, hh, Queues.pop]
    · cases hes : l.clients.queues.entries q <;>
        simp [Clients.step, Clients.atHandle, hh, Queues.tryPop, Queues.pop, inside, hes]
    · simp [Clients.step, Clients.atHandle, hh, Queues.drain]
  · intro op answer c hstep
    have hextends := Clients.extends_step hl.sound hstep
    exact ⟨hextends.handles, hextends.sinks⟩
  · intro h hh
    exact ⟨by simp [Clients.step, Clients.hold, hh], fun level => by simp [Clients.step, hh]⟩

/-- Two clients and a queue that one of them made, which the other uses through a clone and a
sink: the first puts `a` and `c` into it and the second `b`; a record of another level does not
count. The first pops `a`, and a reset takes the rest. What is put into the queue of the process
stays there. -/
theorem run_balanced_two_clients :
    let ops : List (Nat × Operation) :=
      [(0, .new), (0, .push 2 [97]), (1, .clone 2), (1, .sink 3 4), (1, .log 0 ⟨4, [98]⟩),
        (1, .log 0 ⟨7, [120]⟩), (0, .tryPush 2 [99]), (0, .tryPop 2), (1, .push 0 [121]),
        (1, .reset 3)]
    (initial.run ops).map (fun l => (l.put 2, l.taken 2, l.put 1, l.inside 0)) =
        some ([(0, [97, 0]), (1, [98, 0]), (0, [99, 0])], [[97, 0], [98, 0], [99, 0]], [],
          [[121, 0]]) ∧
      ∃ l, initial.run ops = some l ∧ l.Balanced 2 := by
  intro ops
  have hrun : (initial.run ops).isSome := rfl
  have hl : initial.run ops = some ((initial.run ops).get hrun) := (Option.some_get hrun).symm
  exact ⟨rfl, _, hl, run_balanced hl 2⟩

end Ledger

end StorageTopology.Diagnostics
