import StorageTopology.Lvm.Attributes
import StorageTopology.Proofs.Text.Blank

/-!
# The codes of attributes

The tools write attributes as a code: one letter for each place of the column, and a dash where
there is nothing to say. Every attribute of a logical volume has a code. A physical volume has one
place for three of its attributes, and a group has one for two, so at most one of these can be
written; a group does not inherit its allocation policy.

* `isCodeChar_code`: a code consists of letters and dashes, so every character of it is one place
  (`places_of_isCodeChar`).
* `parse?_code`: attributes are read back from their code.
-/

namespace StorageTopology.Lvm

open Text Lettered

/-! ## Letters and dashes -/

theorem toNat_lt_of_isCodeChar {c : Char} (h : isCodeChar c) : c.toNat < 0x80 := by
  unfold isCodeChar at h
  simp only [Bool.or_eq_true, decide_eq_true_eq] at h
  rcases h with rfl | h
  · decide
  · have hcode := toNat_of_isAlphanum (c := c) (by simp [Char.isAlphanum, h])
    omega

theorem not_isBlank_of_isCodeChar {c : Char} (h : isCodeChar c) : isBlank c = false := by
  unfold isCodeChar at h
  simp only [Bool.or_eq_true, decide_eq_true_eq] at h
  rcases h with rfl | h
  · decide
  · exact not_isBlank_of_isAlphanum (by simp [Char.isAlphanum, h])

/-- Every letter and every dash is one place. -/
theorem places_of_isCodeChar : ∀ {cs : List Char}, (∀ c ∈ cs, isCodeChar c) →
    places (String.ofList cs) = cs
  | [], _ => by decide
  | c :: cs, h => by
    have hc : c.toNat < 0x80 := toNat_lt_of_isCodeChar (h c List.mem_cons_self)
    have hencoded : String.utf8EncodeChar c = [UInt8.ofNat c.toNat] := by
      unfold String.utf8EncodeChar
      exact if_pos (Nat.le_of_lt_succ hc)
    have hbyte : (UInt8.ofNat c.toNat).toNat = c.toNat :=
      UInt8.toNat_ofNat_of_lt' (show _ < 256 by omega)
    have hrest : places (String.ofList cs) = cs :=
      places_of_isCodeChar fun d hd => h d (List.mem_cons_of_mem c hd)
    unfold places Utf8.encode at hrest ⊢
    rw [String.toList_ofList] at hrest ⊢
    rw [List.flatMap_cons, List.map_append, hrest, hencoded, List.map_singleton, hbyte,
      Char.ofNat_toNat]
    rfl

/-- The letter `set` or a dash. -/
def flagLetter (set : Char) (b : Bool) : Char := if b then set else '-'

theorem isCodeChar_flagLetter {set : Char} (hset : isCodeChar set) (b : Bool) :
    isCodeChar (flagLetter set b) := by
  cases b
  · rfl
  · exact hset

theorem flagLetter_ne_dash_iff {set : Char} (hset : set ≠ '-') {b : Bool} :
    flagLetter set b ≠ '-' ↔ b := by
  cases b <;> simp [flagLetter, hset]

theorem flag?_flagLetter {set : Char} (hset : set ≠ '-') (b : Bool) :
    flag? set (flagLetter set b) = some b := by
  cases b <;> simp [flagLetter, flag?, hset]

/-- The letter of a policy, or a dash. -/
def policyLetter : Option AllocationPolicy → Char
  | some p => letter p
  | none => '-'

theorem isCodeChar_policyLetter (p : Option AllocationPolicy) : isCodeChar (policyLetter p) := by
  cases p with
  | none => rfl
  | some p => exact isCodeChar_letter p

theorem allocation?_policyLetter (p : Option AllocationPolicy) :
    allocation? (policyLetter p) = some p := by
  rcases p with _ | p
  · rfl
  · cases p <;> rfl

/-! ## Physical volumes -/

namespace PvAttributes

variable (a : PvAttributes)

/-- The letter of what the volume is used for. -/
def useLetter : Char :=
  if a.allocatable then 'a' else if a.used then 'u' else if a.duplicate then 'd' else '-'

/-- The code of the attributes. -/
def code : List Char := [a.useLetter, flagLetter 'x' a.exported, flagLetter 'm' a.missing]

/-- The place for the use of the volume can say at most one thing. -/
def Representable : Prop :=
  ¬(a.allocatable ∧ a.used) ∧ ¬(a.allocatable ∧ a.duplicate) ∧ ¬(a.used ∧ a.duplicate)

theorem isCodeChar_code : ∀ c ∈ a.code, isCodeChar c := by
  have huse : isCodeChar a.useLetter := by
    unfold useLetter
    split_ifs <;> rfl
  simp only [code, List.forall_mem_cons, List.not_mem_nil, forall_false, implies_true, and_true]
  exact ⟨huse, isCodeChar_flagLetter rfl _, isCodeChar_flagLetter rfl _⟩

/-- **Attributes that can be written are read back.** -/
theorem parse?_code {a : PvAttributes} (h : a.Representable) :
    parse? (String.ofList a.code) = some a := by
  unfold parse?
  rw [places_of_isCodeChar a.isCodeChar_code]
  obtain ⟨allocatable, used, duplicate, exported, missing⟩ := a
  simp only [code, flagLetter_ne_dash_iff (by decide : 'x' ≠ '-'),
    flagLetter_ne_dash_iff (by decide : 'm' ≠ '-'), Bool.decide_eq_true]
  revert h
  cases allocatable <;> cases used <;> cases duplicate <;> simp [Representable, useLetter]

end PvAttributes

/-! ## Volume groups -/

namespace VgAttributes

variable (a : VgAttributes)

/-- The letter of how the group is shared. -/
def sharingLetter : Char := if a.clustered then 'c' else if a.shared then 's' else '-'

/-- The code of the attributes. -/
def code : List Char :=
  [if a.writable then 'w' else 'r', flagLetter 'z' a.resizable, flagLetter 'x' a.exported,
    flagLetter 'p' a.incomplete, letter a.allocation, a.sharingLetter]

/-- A group has a policy of its own, and the last place can say at most one thing. -/
def Representable : Prop := a.allocation ≠ .inherited ∧ ¬(a.clustered ∧ a.shared)

theorem isCodeChar_code : ∀ c ∈ a.code, isCodeChar c := by
  have haccess : isCodeChar (if a.writable then 'w' else 'r') := by
    split <;> rfl
  have hsharing : isCodeChar a.sharingLetter := by
    unfold sharingLetter
    split_ifs <;> rfl
  simp only [code, List.forall_mem_cons, List.not_mem_nil, forall_false, implies_true, and_true]
  exact ⟨haccess, isCodeChar_flagLetter rfl _, isCodeChar_flagLetter rfl _,
    isCodeChar_flagLetter rfl _, isCodeChar_letter a.allocation, hsharing⟩

/-- **Attributes that can be written are read back.** -/
theorem parse?_code {a : VgAttributes} (h : a.Representable) :
    parse? (String.ofList a.code) = some a := by
  unfold parse?
  rw [places_of_isCodeChar a.isCodeChar_code]
  obtain ⟨writable, resizable, exported, lacking, allocation, clustered, shared⟩ := a
  obtain ⟨hpolicy, hsharing⟩ := h
  simp only [code, flagLetter_ne_dash_iff (by decide : 'z' ≠ '-'),
    flagLetter_ne_dash_iff (by decide : 'x' ≠ '-'), flagLetter_ne_dash_iff (by decide : 'p' ≠ '-'),
    ofLetter?_letter, Bool.decide_eq_true]
  revert hsharing
  cases writable <;> cases clustered <;> cases shared <;> simp [sharingLetter, hpolicy]

end VgAttributes

/-! ## Logical volumes -/

namespace LvAttributes

variable (a : LvAttributes)

/-- The code of the attributes. -/
def code : List Char :=
  [letter a.volumeType, letter a.permission, policyLetter a.allocation,
    flagLetter 'm' a.fixedMinor, letter a.state, letter a.device, letter a.targetType,
    flagLetter 'z' a.zeroed, letter a.health, flagLetter 'k' a.skipActivation]

theorem isCodeChar_code : ∀ c ∈ a.code, isCodeChar c := by
  simp only [code, List.forall_mem_cons, List.not_mem_nil, forall_false, implies_true, and_true]
  exact ⟨isCodeChar_letter _, isCodeChar_letter _, isCodeChar_policyLetter _,
    isCodeChar_flagLetter rfl _, isCodeChar_letter _, isCodeChar_letter _, isCodeChar_letter _,
    isCodeChar_flagLetter rfl _, isCodeChar_letter _, isCodeChar_flagLetter rfl _⟩

/-- **Attributes are read back.** -/
theorem parse?_code : parse? (String.ofList a.code) = some a := by
  unfold parse?
  rw [places_of_isCodeChar a.isCodeChar_code]
  simp only [code, ofLetter?_letter, allocation?_policyLetter,
    flag?_flagLetter (by decide : 'm' ≠ '-'), flag?_flagLetter (by decide : 'z' ≠ '-'),
    flag?_flagLetter (by decide : 'k' ≠ '-')]
  rfl

end LvAttributes

end StorageTopology.Lvm
