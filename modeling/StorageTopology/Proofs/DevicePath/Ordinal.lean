import Mathlib.Data.List.Basic
import StorageTopology.DevicePath
import StorageTopology.Proofs.Decimal.Numeral

/-!
# Device paths and ordinals

`DevicePath.ofOrdinal` puts the device path of a partition together and `DevicePath.ordinal?` takes
one apart. Below one disk they are inverse to each other.

* `ofOrdinal_eq_ok_iff`, `ordinal?_eq_some_iff`: both say that the path is the disk's path, the
  separator and the numeral of a positive ordinal.
* `ordinal?_append_eq_some_iff`: so what decides is the text after the disk's path.
* `oneSpelling`: zeros in front, signs, a `p` too many or too few, figures of more than 32 bits and
  other disks' paths are refused.
* `ordinal?_iff_ofOrdinal`: the two functions determine each other, and every ordinal has one
  spelling.
-/

namespace StorageTopology.DevicePath

/-- Every disk that has a path has a separator. -/
theorem exists_separator {parent : String} (h : parent ≠ "") :
    ∃ sep, separator parent = .ok sep := by
  unfold separator
  cases hlast : parent.toList.getLast? with
  | none => exact absurd (String.toList_eq_nil_iff.mp (List.getLast?_eq_none_iff.mp hlast)) h
  | some c => exact ⟨_, rfl⟩

/-- What is in front of a name has no part in its separator. -/
theorem separator_append {dir name : String} (h : name ≠ "") :
    separator (dir ++ name) = separator name := by
  have hne : name.toList ≠ [] := fun hnil => h (String.toList_eq_nil_iff.mp hnil)
  unfold separator
  rw [String.toList_append, List.getLast?_append_of_ne_nil _ hne]

theorem one_le_iff {n : UInt32} : 1 ≤ n ↔ 0 < n.toNat := by
  rw [UInt32.le_iff_toNat_le]
  exact Iff.rfl

theorem ofOrdinal_eq_ok_iff {parent sep path : String} {n : UInt32}
    (hsep : separator parent = .ok sep) :
    ofOrdinal parent n = .ok path ↔ 0 < n.toNat ∧ path = parent ++ sep ++ n.toNat.repr := by
  have hpos : n ≠ 0 ↔ 0 < n.toNat := by
    rw [ne_eq, ← UInt32.toNat_inj]
    exact Nat.pos_iff_ne_zero.symm
  unfold ofOrdinal
  rw [hsep]
  show (if n = 0 then _ else _) = _ ↔ _
  by_cases hn : n = 0
  · rw [if_pos hn]
    exact ⟨fun h => absurd h (by simp), fun h => absurd hn (hpos.mpr h.1)⟩
  · rw [if_neg hn, Except.ok.injEq, eq_comm]
    exact (and_iff_right (hpos.mp hn)).symm

theorem ordinal?_eq_some_iff {parent sep path : String} {n : UInt32}
    (hsep : separator parent = .ok sep) :
    ordinal? parent path = some n ↔ 0 < n.toNat ∧ path = parent ++ sep ++ n.toNat.repr := by
  have hpath : path = parent ++ sep ++ n.toNat.repr ↔
      path.toList = (parent.toList ++ sep.toList) ++ Nat.toDigits 10 n.toNat := by
    rw [← String.toList_inj, String.toList_append, String.toList_append, Nat.toList_repr]
  rw [hpath, ← afterPrefix?_eq_some_iff]
  unfold ordinal?
  simp only [hsep]
  cases hafter : afterPrefix? (parent.toList ++ sep.toList) path.toList with
  | none => simp
  | some digits =>
    show (if !Decimal.isDigits digits || digits.head? = some '0' then none
      else Decimal.word32? digits) = some n ↔ _
    rw [Option.some.injEq, ← Decimal.word32?_numeral_iff]
    by_cases hdigits : Decimal.isDigits digits ∧ digits.head? ≠ some '0'
    · rw [if_neg (by simpa using hdigits)]
      exact (and_iff_right hdigits).symm
    · rw [if_pos (by simpa [Classical.or_iff_not_imp_left] using hdigits)]
      exact ⟨fun h => absurd h (by simp), fun h => absurd h.1 hdigits⟩

/-- After the path of the disk comes the separator and then the numeral, and nothing else. -/
theorem ordinal?_append_eq_some_iff {parent sep text : String} {n : UInt32}
    (hsep : separator parent = .ok sep) :
    ordinal? parent (parent ++ text) = some n ↔
      0 < n.toNat ∧ text.toList = sep.toList ++ Nat.toDigits 10 n.toNat := by
  rw [ordinal?_eq_some_iff hsep, String.append_assoc, ← String.toList_inj, String.toList_append,
    String.toList_append, String.toList_append, List.append_cancel_left_eq, Nat.toList_repr]

/-! ## One spelling for every ordinal -/

/-- What a path below the disk `parent`, whose separator is `sep`, is taken apart to. -/
structure OneSpelling (parent sep : String) : Prop where
  /-- The path that is put together for an ordinal is the only one that is taken apart to it. -/
  unique {path path' : String} {n : UInt32} :
    ordinal? parent path = some n → ordinal? parent path' = some n → path = path'
  /-- Every positive ordinal of 32 bits has a path. -/
  total {n : UInt32} : 1 ≤ n → ∃ path, ordinal? parent path = some n
  /-- A path that is not below the disk is refused. -/
  foreign {path : String} : ¬ parent.toList <+: path.toList → ordinal? parent path = none
  /-- So is one without the `p` that should stand after the disk's path. -/
  missing (text : String) : sep = "p" → text.toList.head? ≠ some 'p' →
    ordinal? parent (parent ++ text) = none
  /-- So is a figure that begins with anything but a digit from one to nine: a zero, a sign or
  another `p`. -/
  misspelt {c : Char} (text : List Char) : c = '0' ∨ c.isDigit = false →
    ordinal? parent (parent ++ sep ++ String.ofList (c :: text)) = none
  /-- So is a figure that is not below 2^32. -/
  tooLarge {figure : Nat} : UInt32.size ≤ figure →
    ordinal? parent (parent ++ sep ++ figure.repr) = none

/-- A text that begins with a zero, or not with a digit, is not the numeral of a positive number. -/
theorem ne_toDigits_of_head {c : Char} (text : List Char) {n : Nat} (hn : 0 < n)
    (hc : c = '0' ∨ c.isDigit = false) : c :: text ≠ Nat.toDigits 10 n := by
  intro heq
  rcases hc with rfl | hc
  · exact Decimal.head?_toDigits hn (congrArg List.head? heq).symm
  · have hmem : c ∈ Nat.toDigits 10 n := heq ▸ List.mem_cons_self
    exact absurd (Decimal.isDigit_of_mem_toDigits hmem) (by simp [hc])

theorem oneSpelling {parent sep : String} (hsep : separator parent = .ok sep) :
    OneSpelling parent sep := by
  refine ⟨?_, ?_, ?_, ?_, ?_, ?_⟩
  · intro path path' n h h'
    rw [((ordinal?_eq_some_iff hsep).mp h).2, ((ordinal?_eq_some_iff hsep).mp h').2]
  · intro n hn
    exact ⟨_, (ordinal?_eq_some_iff hsep).mpr ⟨one_le_iff.mp hn, rfl⟩⟩
  · intro path hforeign
    refine Option.eq_none_iff_forall_ne_some.mpr fun n hn => hforeign ?_
    obtain ⟨-, rfl⟩ := (ordinal?_eq_some_iff hsep).mp hn
    rw [String.append_assoc, String.toList_append]
    exact List.prefix_append _ _
  · intro text hp hhead
    refine Option.eq_none_iff_forall_ne_some.mpr fun n hn => hhead ?_
    obtain ⟨-, htext⟩ := (ordinal?_append_eq_some_iff hsep).mp hn
    rw [htext, hp]
    rfl
  · intro c text hc
    refine Option.eq_none_iff_forall_ne_some.mpr fun n hn => ?_
    rw [String.append_assoc, ordinal?_append_eq_some_iff hsep, String.toList_append,
      List.append_cancel_left_eq, String.toList_ofList] at hn
    exact ne_toDigits_of_head text hn.1 hc hn.2
  · intro figure hlarge
    refine Option.eq_none_iff_forall_ne_some.mpr fun n hn => ?_
    rw [String.append_assoc, ordinal?_append_eq_some_iff hsep, String.toList_append,
      List.append_cancel_left_eq, Nat.toList_repr] at hn
    have hread := congrArg (fun cs => Nat.ofDigitChars 10 cs 0) hn.2
    simp only [Nat.ofDigitChars_ten_toDigits] at hread
    have hlt := n.toNat_lt_size
    omega

/-- **Taking a path apart is the inverse of putting it together**: below a disk that has a path, a
path has the ordinal `n` exactly if `n` is positive and the path is the one of `n`. So every
ordinal has one spelling, and no other path is taken apart. Without a disk path nothing is. -/
theorem ordinal?_iff_ofOrdinal (parent : String) :
    (parent ≠ "" →
      (∀ path n, ordinal? parent path = some n ↔ 1 ≤ n ∧ ofOrdinal parent n = .ok path) ∧
        ∃ sep, separator parent = .ok sep ∧ OneSpelling parent sep) ∧
    (parent = "" →
      (∀ path, ordinal? parent path = none) ∧ ∀ n, ofOrdinal parent n = .error .emptyParent) := by
  refine ⟨?_, ?_⟩
  · intro hparent
    obtain ⟨sep, hsep⟩ := exists_separator hparent
    refine ⟨fun path n => ?_, sep, hsep, oneSpelling hsep⟩
    rw [ordinal?_eq_some_iff hsep, ofOrdinal_eq_ok_iff hsep, one_le_iff]
    exact ⟨fun h => ⟨h.1, h⟩, fun h => h.2⟩
  · rintro rfl
    exact ⟨fun _ => rfl, fun _ => rfl⟩

/-- The largest ordinal on a disk whose path ends in a digit; without the `p` it is refused. -/
theorem ordinal?_iff_ofOrdinal_largest :
    "/dev/nvme0n1" ≠ "" ∧ ofOrdinal "/dev/nvme0n1" 4294967295 = .ok "/dev/nvme0n1p4294967295" ∧
      ordinal? "/dev/nvme0n1" "/dev/nvme0n1p4294967295" = some 4294967295 ∧
      ordinal? "/dev/nvme0n1" "/dev/nvme0n14294967295" = none ∧
      ordinal? "" "4294967295" = none := by
  have hparent : "/dev/nvme0n1" ≠ "" := by decide
  have hput : ofOrdinal "/dev/nvme0n1" 4294967295 = .ok "/dev/nvme0n1p4294967295" := by rfl
  obtain ⟨hiff, sep, hsep, hspelling⟩ := (ordinal?_iff_ofOrdinal "/dev/nvme0n1").1 hparent
  have hp : sep = "p" := (Except.ok.inj hsep).symm
  exact ⟨hparent, hput, (hiff _ _).mpr ⟨by decide, hput⟩,
    hspelling.missing "4294967295" hp (by decide),
    ((ordinal?_iff_ofOrdinal "").2 rfl).1 _⟩

end StorageTopology.DevicePath
