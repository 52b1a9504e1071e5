import StorageTopology.Disk

/-!
# Filling in device paths in place

`Partition.fill` (`synthesize_paths`) and `Disk.fill` (`fill_partition_paths`) write the device
paths into partitions that are already there, where `fillPaths` answers with new ones. Either may
fail, and leaves behind whatever it has written until then.
-/

namespace StorageTopology

/-- Something that is done to a state in place: it may fail, and the state goes on in either
case. -/
abbrev InPlace (ε σ α : Type) : Type := ExceptT ε (StateM σ) α

namespace InPlace

variable {ε σ α β : Type}

/-- What is answered, and the state afterwards. -/
def on (act : InPlace ε σ α) (s : σ) : Except ε α × σ := act.run s

@[simp] theorem on_pure (a : α) (s : σ) : on (pure a : InPlace ε σ α) s = (.ok a, s) := rfl

@[simp] theorem on_throw (cause : ε) (s : σ) :
    on (throw cause : InPlace ε σ α) s = (.error cause, s) := rfl

@[simp] theorem on_get (s : σ) : on (get : InPlace ε σ σ) s = (.ok s, s) := rfl

@[simp] theorem on_modify (f : σ → σ) (s : σ) :
    on (modify f : InPlace ε σ PUnit) s = (.ok ⟨⟩, f s) := rfl

/-- A check leaves the state alone. -/
@[simp] theorem on_liftM (x : Except ε α) (s : σ) :
    on (liftM x : InPlace ε σ α) s = (x, s) := by
  cases x <;> rfl

/-- What comes next is done only if nothing has failed. -/
theorem on_bind (act : InPlace ε σ α) (next : α → InPlace ε σ β) (s : σ) :
    on (act >>= next) s =
      match on act s with
      | (.ok a, s) => on (next a) s
      | (.error cause, s) => (.error cause, s) := by
  unfold on ExceptT.run
  simp only [bind, ExceptT.bind, ExceptT.mk, StateT.bind, ExceptT.bindCont]
  cases act s with
  | mk answer after => cases answer <;> rfl

end InPlace

/-- Write the device path of every partition on the disk at `parent`. -/
def Partition.fill (parent : String) : InPlace PathError (List Partition) Unit := do
  let sep ← DevicePath.separator parent
  let ps ← get
  match ps.find? (·.number = 0) with
  | some p => throw (.invalidOrdinal p.number)
  | none =>
    modify fun ps => ps.map fun p =>
      { p with path := some (parent ++ sep ++ p.number.toNat.repr) }

/-- Validate the ordinals of a disk, then write the device path of every partition. -/
def Disk.fill : InPlace TopologyError Disk Unit := do
  let d ← get
  d.validateOrdinals
  let (answer, ps) := (Partition.fill d.path).on d.partitions
  modify fun d => { d with partitions := ps }
  match answer with
  | .error cause => throw (.path cause)
  | .ok () => pure ()

end StorageTopology
