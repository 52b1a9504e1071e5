import StorageTopology.Proofs.Native.Slot

/-!
# The account of a history of sessions

Every session over the library has a queue of its own, but they all share the slot. A history of
sessions is a list of uses: a session is created, runs a command line or is dropped, and the
library logs only while it runs one.

`Account` follows a history without the library. It knows which session hears the library, which
is the one created last, and what each session is owed: what it heard since it last ran.

* `Sound`: what holds of every account; `Sound.follow` is the step and `Sound.after` the run.
* `Alike`: accounts that one session does not tell apart. They stay alike (`Alike.after`), and a
  use of another session makes an account that is alike, if it drops that session or if the one
  session does not hear the library.
-/

namespace StorageTopology.Native

open Diagnostics

/-- What is done with sessions, which are known by position. -/
inductive Use where
  | create
  | run (i : Nat) (command : String) (reply : LibraryReply)
  | drop (i : Nat)

/-- What the library logs at a level while it runs a command line. One with a zero byte does not
reach it. -/
def heard (level : Int32) (command : String) (reply : LibraryReply) : List Entry :=
  if '\x00' ∈ command.toList then []
  else (reply.callbacks.filter fun c => c.level = level).filterMap (·.message)

/-- What is known of sessions from their history alone. -/
structure Account where
  /-- How many sessions there were. -/
  created : Nat
  /-- Which of them were not dropped. -/
  live : Nat → Bool
  /-- The session that hears the library. -/
  hearer : Option Nat
  /-- What was heard for a session since it last ran. -/
  owed : Nat → List Entry

namespace Account

/-- Before there is a session. -/
def initial : Account := ⟨0, fun _ => false, none, fun _ => []⟩

/-- What a session hears of a command line. -/
def told (acc : Account) (level : Int32) (i : Nat) (command : String) (reply : LibraryReply) :
    List Entry :=
  if acc.hearer = some i then heard level command reply else []

/-- The account after a use. A session hears the library from its creation until another one is
created, or until it is dropped or one with the same owner number is; such a one was created a
multiple of 2^64 sessions before. -/
def follow (level : Int32) (acc : Account) : Use → Account
  | .create =>
    { acc with
      created := acc.created + 1
      live := fun i => acc.live i || i == acc.created
      hearer := some acc.created }
  | .run j command reply =>
    { acc with
      owed := fun i => if i = j then [] else acc.owed i ++ acc.told level i command reply }
  | .drop j =>
    { acc with
      live := fun i => acc.live i && i != j
      hearer := acc.hearer.filter fun i => Host.ownerAt i != Host.ownerAt j }

@[simp] theorem live_create {level : Int32} {acc : Account} {i : Nat} :
    (acc.follow level .create).live i ↔ acc.live i ∨ i = acc.created := by
  simp [follow]

@[simp] theorem live_drop {level : Int32} {acc : Account} {i j : Nat} :
    (acc.follow level (.drop j)).live i ↔ acc.live i ∧ i ≠ j := by
  simp [follow]

@[simp] theorem hearer_drop {level : Int32} {acc : Account} {i j : Nat} :
    (acc.follow level (.drop j)).hearer = some i ↔
      acc.hearer = some i ∧ Host.ownerAt i ≠ Host.ownerAt j := by
  simp [follow, Option.filter_eq_some_iff]

@[simp] theorem owed_run (level : Int32) (acc : Account) (i j : Nat) (command : String)
    (reply : LibraryReply) : (acc.follow level (.run j command reply)).owed i =
      if i = j then [] else acc.owed i ++ acc.told level i command reply := rfl

/-- The account after a history. -/
def after (level : Int32) (history : List Use) (acc : Account) : Account :=
  history.foldl (follow level) acc

/-- Whether there is the session for a use. -/
def permits (acc : Account) : Use → Bool
  | .create => true
  | .run i _ _ | .drop i => acc.live i

/-- Whether there are the sessions for all uses. -/
def permitsAll (level : Int32) : List Use → Account → Bool
  | [], _ => true
  | u :: us, acc => acc.permits u && permitsAll level us (acc.follow level u)

theorem after_append (level : Int32) (us us' : List Use) (acc : Account) :
    acc.after level (us ++ us') = (acc.after level us).after level us' :=
  List.foldl_append

theorem permitsAll_append (level : Int32) : ∀ (us us' : List Use) (acc : Account),
    acc.permitsAll level (us ++ us') =
      (acc.permitsAll level us && (acc.after level us).permitsAll level us')
  | [], _, _ => rfl
  | u :: us, us', acc => by
    show (acc.permits u && permitsAll level (us ++ us') (acc.follow level u)) = _
    rw [permitsAll_append level us us', ← Bool.and_assoc]
    rfl

/-- What holds of the account of every history that is possible. -/
structure Sound (acc : Account) : Prop where
  bound {i : Nat} : acc.live i → i < acc.created
  hearer {i : Nat} : acc.hearer = some i → acc.created = i + 1
  newest {i : Nat} : acc.live i → acc.created = i + 1 → acc.created < UInt64.size →
    acc.hearer = some i
  unborn {i : Nat} : acc.created ≤ i → acc.owed i = []

theorem sound_initial : initial.Sound :=
  ⟨fun h => absurd h (by simp [initial]), fun h => absurd h (by simp [initial]),
    fun h => absurd h (by simp [initial]), fun _ => rfl⟩

theorem Sound.told_of_le {acc : Account} (h : acc.Sound) {i : Nat} (hi : acc.created ≤ i)
    (level : Int32) (command : String) (reply : LibraryReply) :
    acc.told level i command reply = [] := by
  refine if_neg ?_
  intro hearer
  have hnewest := h.hearer hearer
  omega

theorem Sound.follow {acc : Account} (h : acc.Sound) (level : Int32) {u : Use}
    (hu : acc.permits u) : (acc.follow level u).Sound := by
  cases u with
  | create =>
    refine ⟨?_, ?_, ?_, ?_⟩
    · intro i hi
      show i < acc.created + 1
      rcases live_create.mp hi with hi | hi
      · have hbound := h.bound hi
        omega
      · omega
    · intro i hi
      exact congrArg Nat.succ (Option.some.inj hi)
    · intro i _ hnewest _
      exact congrArg some (Nat.succ.inj hnewest)
    · intro i hi
      exact h.unborn (Nat.le_of_lt hi)
  | run j command reply =>
    refine ⟨h.bound, h.hearer, h.newest, ?_⟩
    intro i hi
    rw [owed_run, h.unborn hi, h.told_of_le hi]
    split <;> rfl
  | drop j =>
    refine ⟨?_, ?_, ?_, h.unborn⟩
    · intro i hi
      exact h.bound (live_drop.mp hi).1
    · intro i hi
      exact h.hearer (hearer_drop.mp hi).1
    · intro i hi hnewest few
      have hnewest : acc.created = i + 1 := hnewest
      have few : acc.created < UInt64.size := few
      obtain ⟨hlive, hij⟩ := live_drop.mp hi
      -- the session `i` is the newest, so no other live one has its owner number
      have hj : j < acc.created := h.bound hu
      refine hearer_drop.mpr ⟨h.newest hlive hnewest few, ?_⟩
      intro howner
      exact hij (Host.ownerAt_injective (by omega) (by omega) howner)

theorem Sound.after {level : Int32} : ∀ (us : List Use) {acc : Account}, acc.Sound →
    acc.permitsAll level us → (acc.after level us).Sound
  | [], _, h, _ => h
  | _ :: us, _, h, hus => by
    obtain ⟨hu, hus⟩ := Bool.and_eq_true_iff.mp hus
    exact Sound.after us (h.follow level hu) hus

/-! ## What one session tells of the others -/

/-- Accounts with the same answers for the session `i`; the second has every session that the
first has. -/
structure Alike (i : Nat) (acc acc' : Account) : Prop where
  created : acc.created = acc'.created
  live (k : Nat) : acc.live k → acc'.live k
  hearer : acc.hearer = some i ↔ acc'.hearer = some i
  owed : acc.owed i = acc'.owed i

variable {level : Int32} {i : Nat} {acc acc' : Account}

theorem Alike.told (h : Alike i acc acc') (level : Int32) (command : String)
    (reply : LibraryReply) :
    acc.told level i command reply = acc'.told level i command reply := by
  unfold Account.told
  simp only [h.hearer]

theorem Alike.permits (h : Alike i acc acc') {u : Use} (hu : acc.permits u) : acc'.permits u := by
  cases u with
  | create => rfl
  | run k command reply => exact h.live k hu
  | drop k => exact h.live k hu

theorem Alike.follow (h : Alike i acc acc') (level : Int32) (u : Use) :
    Alike i (acc.follow level u) (acc'.follow level u) := by
  cases u with
  | create =>
    refine ⟨congrArg Nat.succ h.created, ?_, ?_, h.owed⟩
    · intro k hk
      rcases live_create.mp hk with hk | hk
      · exact live_create.mpr (.inl (h.live k hk))
      · exact live_create.mpr (.inr (hk.trans h.created))
    · show some acc.created = some i ↔ some acc'.created = some i
      rw [h.created]
  | run j command reply =>
    refine ⟨h.created, h.live, h.hearer, ?_⟩
    rw [owed_run, owed_run, h.owed, h.told]
  | drop j =>
    refine ⟨h.created, ?_, ?_, h.owed⟩
    · intro k hk
      obtain ⟨hlive, hkj⟩ := live_drop.mp hk
      exact live_drop.mpr ⟨h.live k hlive, hkj⟩
    · rw [hearer_drop, hearer_drop, h.hearer]

theorem Alike.after : ∀ (us : List Use) {acc acc' : Account}, Alike i acc acc' →
    Alike i (acc.after level us) (acc'.after level us)
  | [], _, _, h => h
  | u :: us, _, _, h => Alike.after us (h.follow level u)

theorem Alike.permitsAll : ∀ (us : List Use) {acc acc' : Account}, Alike i acc acc' →
    acc.permitsAll level us → acc'.permitsAll level us
  | [], _, _, _, _ => rfl
  | u :: us, _, _, h, hus => by
    obtain ⟨hu, hus⟩ := Bool.and_eq_true_iff.mp hus
    exact Bool.and_eq_true_iff.mpr ⟨h.permits hu, Alike.permitsAll us (h.follow level u) hus⟩

/-- **To drop another session** does not show, unless it has the same owner number. -/
theorem alike_drop {j : Nat} (hj : Host.ownerAt j ≠ Host.ownerAt i) :
    Alike i (acc.follow level (.drop j)) acc := by
  refine ⟨rfl, fun k hk => (live_drop.mp hk).1, ?_, rfl⟩
  rw [hearer_drop]
  exact and_iff_left hj.symm

/-- **A run of another session** does not show to a session that does not hear the library. -/
theorem alike_run {j : Nat} (hj : j ≠ i) (hearer : acc.hearer ≠ some i) (command : String)
    (reply : LibraryReply) : Alike i (acc.follow level (.run j command reply)) acc := by
  refine ⟨rfl, fun _ hk => hk, Iff.rfl, ?_⟩
  rw [owed_run, if_neg hj.symm, Account.told, if_neg hearer, List.append_nil]

/-- Nothing is owed to a session while no other session runs. -/
theorem owed_after_eq_nil : ∀ (us : List Use) {acc : Account}, acc.owed i = [] →
    (∀ j command reply, Use.run j command reply ∈ us → j = i) → (acc.after level us).owed i = []
  | [], _, h, _ => h
  | u :: us, acc, h, hus => by
    have hnil : (acc.follow level u).owed i = [] := by
      cases u with
      | create => exact h
      | run j command reply => exact if_pos (hus j command reply List.mem_cons_self).symm
      | drop j => exact h
    refine owed_after_eq_nil us hnil ?_
    intro j command reply hrun
    exact hus j command reply (List.mem_cons_of_mem u hrun)

end Account

end StorageTopology.Native
