import StorageTopology.Proofs.Native.Steps

/-!
# What the steps of a host do to the queues

Within a step the queues change in three ways (`Effect`): the library calls back, a queue is
drained, or a new queue comes into being. `Traced` lists the effects of a step in order, and says
which callbacks they are: those that the library makes on its own, and then those of every reply
that the step used up.

* `keeps_run_traced`: a command line of a session adds its callbacks and one drain.
* `traced_of_taken`: every step is traced, with the slot as it was before the step.
-/

namespace StorageTopology.Native

open Diagnostics

/-- One change of the queues. -/
inductive Effect where
  | callBack (callback : Callback)
  | drain (queue : QueueId)
  | create

namespace Effect

/-- Carry out an effect; where a callback goes is decided by the slot of `l`. -/
def apply (l : Library) (qs : Queues) : Effect → Queues
  | .callBack c => l.callBack c qs
  | .drain q => (qs.drain q).2
  | .create => qs.create.2

/-- Carry out effects in order. -/
def applyAll (l : Library) (effects : List Effect) (qs : Queues) : Queues :=
  effects.foldl (apply l) qs

/-- The callback of an effect, if it is one. -/
def callback? : Effect → Option Callback
  | .callBack c => some c
  | _ => none

theorem applyAll_append (l : Library) (es es' : List Effect) (qs : Queues) :
    applyAll l (es ++ es') qs = applyAll l es' (applyAll l es qs) :=
  List.foldl_append

theorem applyAll_callBack (l : Library) (cs : List Callback) (qs : Queues) :
    applyAll l (cs.map .callBack) qs = l.callBackAll cs qs :=
  List.foldl_map

theorem length_contents_apply (l : Library) (qs : Queues) (e : Effect) :
    qs.contents.length ≤ (e.apply l qs).contents.length := by
  cases e with
  | callBack c => exact Nat.le_of_eq (l.length_contents_callBack c qs).symm
  | drain q => exact Nat.le_of_eq (qs.length_contents_update q _).symm
  | create => simp [apply, Queues.create]

/-- Effects never take a queue away. -/
theorem length_contents_applyAll (l : Library) : ∀ (es : List Effect) (qs : Queues),
    qs.contents.length ≤ (applyAll l es qs).contents.length
  | [], _ => Nat.le_refl _
  | e :: es, qs =>
    Nat.le_trans (length_contents_apply l qs e) (length_contents_applyAll l es (e.apply l qs))

theorem filterMap_callBack (cs : List Callback) : (cs.map callBack).filterMap callback? = cs := by
  induction cs with
  | nil => rfl
  | cons c cs ih => exact congrArg (c :: ·) ih

end Effect

/-- The callbacks that the library makes on its own at a step. -/
def Step.callbacks : Step → List Callback
  | .callBack c => [c]
  | _ => []

/-- The callbacks of replies, in order. -/
def LibraryReply.allCallbacks (replies : List LibraryReply) : List Callback :=
  replies.flatMap (·.callbacks)

/-- From the library `l` and the queues `qs` to `l'` and `qs'`: the effects in between, with the
callbacks `own` that the library makes on its own and those of the replies that are used up. -/
def Traced (l : Library) (qs : Queues) (own : List Callback) (l' : Library) (qs' : Queues) : Prop :=
  ∃ (effects : List Effect) (used : Nat), qs' = Effect.applyAll l effects qs ∧
    effects.filterMap Effect.callback? =
      own ++ LibraryReply.allCallbacks (l.replies.take used) ∧
    l'.replies = l.replies.drop used

/-- A command line uses up one reply, or none if it cannot be handed over. -/
theorem Library.replies_run (l : Library) (h : Handle) (command : String) (qs : Queues) :
    ∃ used, (l.run h command qs).2.1.replies = l.replies.drop used ∧
      l.callbacks command = LibraryReply.allCallbacks (l.replies.take used) := by
  unfold run callbacks
  split
  · exact ⟨0, rfl, rfl⟩
  · refine ⟨1, ?_, ?_⟩
    · exact List.drop_one.symm
    · cases l.replies with
      | nil => rfl
      | cons reply replies => simp [LibraryReply.allCallbacks]

namespace Traced

variable {l l' : Library} {qs qs' : Queues} {own : List Callback}

theorem refl (l : Library) (qs : Queues) : Traced l qs [] l qs := ⟨[], 0, rfl, rfl, rfl⟩

/-- A command line after what is traced. -/
theorem run (h : Traced l qs own l' qs') (hslot : l'.slot = l.slot) (handle : Handle)
    (command : String) :
    Traced l qs own (l'.run handle command qs').2.1 (l'.run handle command qs').2.2 := by
  obtain ⟨effects, used, rfl, hcallbacks, hreplies⟩ := h
  obtain ⟨more, hdrop, htake⟩ := l'.replies_run handle command (Effect.applyAll l effects qs)
  refine ⟨effects ++ (l'.callbacks command).map .callBack, used + more, ?_, ?_, ?_⟩
  · rw [Library.queues_run, Effect.applyAll_append, Effect.applyAll_callBack]
    exact Library.callBackAll_congr hslot _ _
  · rw [List.filterMap_append, hcallbacks, Effect.filterMap_callBack, htake, hreplies,
      List.take_add, List.append_assoc]
    exact congrArg _ List.flatMap_append.symm
  · rw [hdrop, hreplies, List.drop_drop]

/-- A drain after what is traced. -/
theorem drain (h : Traced l qs own l' qs') (q : QueueId) : Traced l qs own l' (qs'.drain q).2 := by
  obtain ⟨effects, used, rfl, hcallbacks, hreplies⟩ := h
  refine ⟨effects ++ [.drain q], used, ?_, ?_, hreplies⟩
  · rw [Effect.applyAll_append]
    rfl
  · rw [List.filterMap_append, hcallbacks]
    exact List.append_nil _

end Traced

namespace Host

/-- **A command line of a session** adds its callbacks and the drain. -/
theorem keeps_run_traced (l : Library) (qs : Queues) (command : String) :
    Session.Keeps (fun s qs' => s.engine.library.slot = l.slot ∧
      Traced l qs [] s.engine.library qs')
      (Session.run command : Session.Activity Attached String) := by
  rintro ⟨⟨l', h⟩, q⟩ qs' ⟨hslot, htraced⟩
  rw [Session.exec_run]
  exact ⟨(Library.slot_run l' h command qs').trans hslot, (htraced.run hslot h command).drain q⟩

theorem perform_traced (p : Host) (h : Handle) (q : QueueId) (request : Lvm.Request) :
    Traced p.library p.queues [] (p.perform h q request).2.library
      (p.perform h q request).2.queues := by
  have hkeeps := Session.keeps_perform (keeps_run_traced p.library p.queues) request
    ⟨⟨p.library, h⟩, q⟩ p.queues ⟨rfl, Traced.refl _ _⟩
  rw [perform_eq]
  exact hkeeps.2

/-- **Every step is traced.** -/
theorem traced_of_taken {p p' : Host} {s : Step} (h : Taken p s p') :
    Traced p.library p.queues s.callbacks p'.library p'.queues := by
  cases h with
  | callBack c => exact ⟨[.callBack c], 0, rfl, rfl, rfl⟩
  | run command hheld => exact (Traced.refl _ _).run rfl _ command
  | wrapOwn level hheld => exact ⟨[.create], 0, rfl, rfl, rfl⟩
  | perform request hheld => exact perform_traced p _ _ request
  | drop hheld live => exact ⟨[], 0, rfl, rfl, Library.replies_drop _ _⟩
  | drain present => exact (Traced.refl _ _).drain _
  | _ => exact Traced.refl _ _

end Host

end StorageTopology.Native
