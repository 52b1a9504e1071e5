import StorageTopology.Proofs.Native.Sessions

/-!
# How far sessions are apart

Since there is one slot, the library is heard by the session that was created last, and by no
other, until that session is dropped. A session that is older runs command lines all the same, but
hears nothing of them.

* `messages_of_another_run`: so a run need not capture the messages of its own command line.
* `run_of_sessions`: a session that is live always has an answer. If nothing was heard for it while
  others ran, it captures what it hears of its own command line and nothing else; to drop another
  session never shows, and a run of another session never shows to a session that does not hear
  the library.
-/

namespace StorageTopology.Native

open Diagnostics

namespace Host

/-- Two sessions, and a run of the older one, which captures nothing. -/
theorem messages_of_another_run :
    ¬ ∀ (level : Int32) (queues : Queues) (history : List Use) (p p' : Host) (i : Nat)
      (command : String) (reply : LibraryReply) (text : String),
      (initial queues).useAll level history = some p →
        p.use level (.run i command reply) = some (.reply (.text text), p') →
          text = Session.transcript (heard level command reply) := by
  intro h
  have hempty := h 4 .initial [.create, .create] _ _ 0 "pvs" ⟨[⟨4, some [120]⟩], 1⟩ "" rfl rfl
  exact absurd hempty (by decide)

/-- The answer to a run of the session `i` after a history. -/
structure Returned (level : Int32) (queues : Queues) (history : List Use) (i : Nat)
    (command : String) (reply : LibraryReply) (answer : Answer) : Prop where
  /-- What is captured, line by line, is what the session hears of this command line, if it heard
  nothing while others ran since it last ran itself. -/
  lines :
    let acc := Account.initial.after level history
    acc.owed i = [] → answer = answered command reply (acc.told level i command reply)
  /-- The session hears the library exactly if it is the newest, unless owner numbers ran out. -/
  newest :
    let acc := Account.initial.after level history
    acc.created < UInt64.size → (acc.hearer = some i ↔ acc.created = i + 1)
  /-- A session that hears the library captures exactly the messages of its own command line, if
  no other session ran since it last ran or since it was created. -/
  alone {before later : List Use} {own : Use} : history = before ++ own :: later →
    (own = .create ∧ (Account.initial.after level before).created = i ∨
      ∃ command reply, own = .run i command reply) →
    (∀ j command reply, Use.run j command reply ∈ later → j = i) →
    (Account.initial.after level history).hearer = some i →
    answer = answered command reply (heard level command reply)
  /-- Without a drop of another session the answer is the same. -/
  drops {before later : List Use} {j : Nat} : history = before ++ .drop j :: later →
    ownerAt j ≠ ownerAt i → ∃ q q', (initial queues).useAll level (before ++ later) = some q ∧
      q.use level (.run i command reply) = some (answer, q')
  /-- Without a run of another session the answer is the same, unless this session heard it. -/
  runs {before later : List Use} {j : Nat} {other : String} {reply' : LibraryReply} :
    history = before ++ .run j other reply' :: later → j ≠ i →
    (Account.initial.after level before).hearer ≠ some i →
    ∃ q q', (initial queues).useAll level (before ++ later) = some q ∧
      q.use level (.run i command reply) = some (answer, q')

/-- A history that session `i` does not tell from another one leads to the same answer. -/
theorem use_of_alike {level : Int32} {queues : Queues} {i : Nat} {acc : Account}
    {history : List Use} (hpermits : Account.initial.permitsAll level history)
    (halike : Account.Alike i acc (Account.initial.after level history)) (live : acc.live i)
    (command : String) (reply : LibraryReply) :
    ∃ q q', (initial queues).useAll level history = some q ∧
      q.use level (.run i command reply) =
        some (answered command reply (acc.owed i ++ acc.told level i command reply), q') := by
  obtain ⟨q, hq, hsessions⟩ := sessions_useAll history (sessions_initial level queues) hpermits
  obtain ⟨q', hrun, -⟩ := hsessions.run (halike.live i live) command reply
  refine ⟨q, q', hq, ?_⟩
  rw [hrun, halike.owed, halike.told]

/-- The same with one use taken out of a history, if the session does not tell it. -/
theorem use_without {level : Int32} {queues : Queues} {i : Nat} {before later : List Use} {u : Use}
    (hpermits : Account.initial.permitsAll level (before ++ u :: later))
    (live : (Account.initial.after level (before ++ u :: later)).live i)
    (halike : let acc := Account.initial.after level before
      Account.Alike i (acc.follow level u) acc) (command : String) (reply : LibraryReply) :
    let acc := Account.initial.after level (before ++ u :: later)
    ∃ q q', (initial queues).useAll level (before ++ later) = some q ∧
      q.use level (.run i command reply) =
        some (answered command reply (acc.owed i ++ acc.told level i command reply), q') := by
  intro acc
  rw [Account.permitsAll_append, Bool.and_eq_true_iff] at hpermits
  obtain ⟨hbefore, hafter⟩ := hpermits
  obtain ⟨-, hlater⟩ := Bool.and_eq_true_iff.mp hafter
  refine use_of_alike ?_ ?_ live command reply
  · rw [Account.permitsAll_append, Bool.and_eq_true_iff]
    exact ⟨hbefore, halike.permitsAll later hlater⟩
  · rw [Account.after_append level before (u :: later), Account.after_append level before later]
    exact halike.after later

/-- Nothing is owed to a session if no other session ran since it last ran or was created. -/
theorem owed_eq_nil {level : Int32} {i : Nat} {before later : List Use} {own : Use}
    (hpermits : Account.initial.permitsAll level (before ++ own :: later))
    (hown : own = .create ∧ (Account.initial.after level before).created = i ∨
      ∃ command reply, own = .run i command reply)
    (hlater : ∀ j command reply, Use.run j command reply ∈ later → j = i) :
    (Account.initial.after level (before ++ own :: later)).owed i = [] := by
  rw [Account.permitsAll_append, Bool.and_eq_true_iff] at hpermits
  have hsound := Account.sound_initial.after before hpermits.1
  rw [Account.after_append]
  refine Account.owed_after_eq_nil later ?_ hlater
  rcases hown with ⟨rfl, hcreated⟩ | ⟨command, reply, rfl⟩
  · exact hsound.unborn (Nat.le_of_eq hcreated)
  · exact if_pos rfl

/-- **What a run answers**: after every history of sessions with queues of their own, a session
that is live runs a command line, and its answer is as `Returned` says. -/
theorem run_of_sessions {level : Int32} {queues : Queues} {history : List Use} {p : Host}
    (h : (initial queues).useAll level history = some p) {i : Nat} (live : p.isLive i)
    (command : String) (reply : LibraryReply) :
    ∃ answer p', p.use level (.run i command reply) = some (answer, p') ∧
      Returned level queues history i command reply answer := by
  have hinitial := sessions_initial level queues
  have hpermits := permitsAll_of_useAll history hinitial h
  obtain ⟨p₁, hp₁, hsessions⟩ := sessions_useAll history hinitial hpermits
  obtain rfl := Option.some.inj (h.symm.trans hp₁)
  have hlive : (Account.initial.after level history).live i := hsessions.live i ▸ live
  obtain ⟨p', hrun, -⟩ := hsessions.run hlive command reply
  refine ⟨_, p', hrun, ?_, ?_, ?_, ?_, ?_⟩
  · intro acc hnothing
    rw [hnothing, List.nil_append]
  · intro acc few
    exact ⟨hsessions.sound.hearer, fun hnewest => hsessions.sound.newest hlive hnewest few⟩
  · intro before later own hhistory hown hlater hhearer
    rw [Account.told, if_pos hhearer]
    subst hhistory
    rw [owed_eq_nil hpermits hown hlater, List.nil_append]
  · intro before later j hhistory hj
    subst hhistory
    exact use_without hpermits hlive (Account.alike_drop hj) command reply
  · intro before later j other reply' hhistory hj hhearer
    subst hhistory
    exact use_without hpermits hlive (Account.alike_run hj hhearer _ _) command reply

/-- Three sessions of which the newest ran last. What it answers next is what is logged then,
whatever the others ran and although one of them is dropped in between. -/
theorem run_of_sessions_three :
    let x : LibraryReply := ⟨[⟨4, some [120]⟩], 1⟩
    let y : LibraryReply := ⟨[⟨4, some [121]⟩, ⟨7, some [122]⟩], 1⟩
    let history : List Use :=
      [.create, .create, .run 0 "vgs" x, .create, .run 1 "vgs" x, .run 2 "lvs" x, .drop 0]
    ∃ p, (initial .initial).useAll 4 history = some p ∧ p.isLive 2 ∧
      (Account.initial.after 4 history).owed 2 = [] ∧
      (p.use 4 (.run 2 "pvs" y)).map Prod.fst = some (.reply (.text "y\n")) ∧
      ∃ answer p', p.use 4 (.run 2 "pvs" y) = some (answer, p') ∧
        Returned 4 .initial history 2 "pvs" y answer := by
  intro x y history
  have hp : (initial .initial).useAll 4 history = some _ := rfl
  exact ⟨_, hp, rfl, rfl, rfl, run_of_sessions hp rfl "pvs" y⟩

end Host

end StorageTopology.Native
