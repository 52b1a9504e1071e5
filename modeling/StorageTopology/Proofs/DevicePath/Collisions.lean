import StorageTopology.Proofs.Disk.Settled

/-!
# Device paths that two disks share

A device path is the path of its disk with a separator, and then digits. The separator keeps the
digits of the ordinal from running into those of the disk, so the path says where they begin. It
does not say whether the `p` before them belongs to the disk: `/dev/md1p5` is the fifth partition
of `/dev/md1`, and of `/dev/md1p`.

* `eq_of_append_digits`: a text that does not end in a digit is told from the digits behind it.
* `Confusable`, `stem_eq_iff`: the disks whose paths are the same once they have their separators.
* `collisions`: **two disks share a device path exactly if they are the same or confusable, and
  then for the same ordinal**.
-/

namespace StorageTopology.DevicePath

/-! ## Where the digits begin -/

/-- The last character is a digit. -/
def EndsInDigit (path : String) : Prop := ∃ c ∈ path.toList.getLast?, c.isDigit

/-- Digits at the end of the disk's path are what the separator depends on. -/
theorem separator_cases {path sep : String} (hsep : separator path = .ok sep) :
    EndsInDigit path ∧ sep = "p" ∨ ¬EndsInDigit path ∧ sep = "" := by
  unfold separator at hsep
  unfold EndsInDigit
  cases hlast : path.toList.getLast? with
  | none =>
    rw [hlast] at hsep
    exact absurd hsep nofun
  | some c =>
    rw [hlast] at hsep
    obtain rfl := Except.ok.inj hsep
    by_cases hdigit : c.isDigit
    · exact .inl ⟨⟨c, rfl, hdigit⟩, if_pos hdigit⟩
    · exact .inr ⟨fun ⟨_, hc, h⟩ => hdigit (Option.some.inj hc ▸ h), if_neg hdigit⟩

theorem not_endsInDigit_append_p (path : String) : ¬EndsInDigit (path ++ "p") := by
  rintro ⟨c, hc, hdigit⟩
  rw [String.toList_append, show "p".toList = ['p'] from rfl, List.getLast?_concat] at hc
  obtain rfl := Option.some.inj hc
  exact absurd hdigit (by decide)

/-- A disk path with its separator does not end in a digit. -/
theorem not_endsInDigit_stem {path sep : String} (hsep : separator path = .ok sep) :
    ¬EndsInDigit (path ++ sep) := by
  rcases separator_cases hsep with ⟨-, rfl⟩ | ⟨hdigit, rfl⟩
  · exact not_endsInDigit_append_p path
  · rwa [String.append_empty]

/-- Digits at the end of a text that does not end in one are no digits. -/
theorem eq_nil_of_digits {cs ds : List Char} (hlast : ¬∃ c ∈ (cs ++ ds).getLast?, c.isDigit)
    (hds : ∀ c ∈ ds, c.isDigit) : ds = [] := by
  rcases List.eq_nil_or_concat ds with rfl | ⟨before, c, rfl⟩
  · rfl
  · refine absurd ⟨c, ?_, hds c (by simp)⟩ hlast
    rw [List.concat_eq_append, ← List.append_assoc, List.getLast?_concat]
    rfl

/-- **Where the digits behind a text begin** can be told if the text does not end in one. -/
theorem eq_of_append_digits {cs cs' ds ds' : List Char} (hcs : ¬∃ c ∈ cs.getLast?, c.isDigit)
    (hcs' : ¬∃ c ∈ cs'.getLast?, c.isDigit) (hds : ∀ c ∈ ds, c.isDigit)
    (hds' : ∀ c ∈ ds', c.isDigit) (h : cs ++ ds = cs' ++ ds') : cs = cs' ∧ ds = ds' := by
  rcases List.append_eq_append_iff.mp h with ⟨middle, rfl, rfl⟩ | ⟨middle, rfl, rfl⟩
  · obtain rfl := eq_nil_of_digits hcs' fun c hc => hds c (List.mem_append_left ds' hc)
    exact ⟨(List.append_nil cs).symm, rfl⟩
  · obtain rfl := eq_nil_of_digits hcs fun c hc => hds' c (List.mem_append_left ds hc)
    exact ⟨List.append_nil cs', rfl⟩

/-! ## Disks that are confused -/

/-- One of the two paths ends in a digit, and the other is it with a `p`. -/
def Confusable (p q : String) : Prop :=
  EndsInDigit p ∧ q = p ++ "p" ∨ EndsInDigit q ∧ p = q ++ "p"

/-- Only the same disks and confusable ones have the same path once they have their separators. -/
theorem stem_eq_iff {p q sep sep' : String} (hp : separator p = .ok sep)
    (hq : separator q = .ok sep') : p ++ sep = q ++ sep' ↔ p = q ∨ Confusable p q := by
  rcases separator_cases hp with ⟨hpdigit, rfl⟩ | ⟨hpdigit, rfl⟩ <;>
    rcases separator_cases hq with ⟨hqdigit, rfl⟩ | ⟨hqdigit, rfl⟩
  · rw [String.append_left_inj]
    refine (or_iff_left ?_).symm
    rintro (⟨-, rfl⟩ | ⟨-, rfl⟩)
    · exact not_endsInDigit_append_p p hqdigit
    · exact not_endsInDigit_append_p q hpdigit
  · rw [String.append_empty]
    constructor
    · exact fun h => .inr (.inl ⟨hpdigit, h.symm⟩)
    · rintro (rfl | ⟨-, h⟩ | ⟨h, -⟩)
      · exact absurd hpdigit hqdigit
      · exact h.symm
      · exact absurd h hqdigit
  · rw [String.append_empty]
    constructor
    · exact fun h => .inr (.inr ⟨hqdigit, h⟩)
    · rintro (rfl | ⟨h, -⟩ | ⟨-, h⟩)
      · exact absurd hqdigit hpdigit
      · exact absurd h hpdigit
      · exact h
  · rw [String.append_empty, String.append_empty]
    refine (or_iff_left ?_).symm
    rintro (⟨h, -⟩ | ⟨h, -⟩)
    · exact hpdigit h
    · exact hqdigit h

/-! ## Shared device paths -/

/-- What stands before the digits, and the digits, are the same. -/
theorem append_numeral_eq_iff {p q sep sep' : String} (hp : separator p = .ok sep)
    (hq : separator q = .ok sep') {m n : UInt32} :
    p ++ sep ++ m.toNat.repr = q ++ sep' ++ n.toNat.repr ↔ m = n ∧ (p = q ∨ Confusable p q) := by
  rw [← stem_eq_iff hp hq]
  constructor
  · intro h
    have hlists : (p ++ sep).toList ++ Nat.toDigits 10 m.toNat =
        (q ++ sep').toList ++ Nat.toDigits 10 n.toNat := by
      simpa only [String.toList_append, Nat.toList_repr] using congrArg String.toList h
    obtain ⟨hstem, hdigits⟩ := eq_of_append_digits (not_endsInDigit_stem hp)
      (not_endsInDigit_stem hq) (fun _ => Decimal.isDigit_of_mem_toDigits)
      (fun _ => Decimal.isDigit_of_mem_toDigits) hlists
    have hnat := congrArg (fun cs => Nat.ofDigitChars 10 cs 0) hdigits
    simp only [Nat.ofDigitChars_ten_toDigits] at hnat
    exact ⟨UInt32.toNat_inj.mp hnat, String.toList_inj.mp hstem⟩
  · rintro ⟨rfl, hstem⟩
    rw [hstem]

theorem ofOrdinal_eq_iff {p q sep sep' : String} (hp : separator p = .ok sep)
    (hq : separator q = .ok sep') {m n : UInt32} (hm : 1 ≤ m) (hn : 1 ≤ n) :
    ofOrdinal p m = ofOrdinal q n ↔ m = n ∧ (p = q ∨ Confusable p q) := by
  have hpm : ofOrdinal p m = .ok (p ++ sep ++ m.toNat.repr) :=
    (ofOrdinal_eq_ok_iff hp).mpr ⟨one_le_iff.mp hm, rfl⟩
  have hqn : ofOrdinal q n = .ok (q ++ sep' ++ n.toNat.repr) :=
    (ofOrdinal_eq_ok_iff hq).mpr ⟨one_le_iff.mp hn, rfl⟩
  rw [hpm, hqn, Except.ok.injEq, append_numeral_eq_iff hp hq]

/-- The device paths that the disks at `p` and `q` share. -/
structure Collisions (p q : String) : Prop where
  /-- Both disks have a device path for every positive ordinal. -/
  total : ∀ n, 1 ≤ n → (∃ path, ofOrdinal p n = .ok path) ∧ ∃ path, ofOrdinal q n = .ok path
  shared_iff : ∀ m n, 1 ≤ m → 1 ≤ n →
    (ofOrdinal p m = ofOrdinal q n ↔ m = n ∧ (p = q ∨ Confusable p q))
  /-- On one disk different ordinals have different device paths. -/
  one_disk : ∀ m n, 1 ≤ m → 1 ≤ n → m ≠ n → ofOrdinal p m ≠ ofOrdinal p n
  /-- Disks of which neither is the other with a `p` have no device path in common. -/
  apart : p ≠ q → q ≠ p ++ "p" → p ≠ q ++ "p" → ∀ m n, 1 ≤ m → 1 ≤ n →
    ofOrdinal p m ≠ ofOrdinal q n
  /-- So it is with the device paths that are filled in. -/
  filled : ∀ ps qs ps' qs', Partition.fillPaths p ps = .ok ps' →
    Partition.fillPaths q qs = .ok qs' → ∀ x ∈ ps', ∀ y ∈ qs',
      (x.path = y.path ↔ x.number = y.number ∧ (p = q ∨ Confusable p q))

/-- **Two disks share a device path exactly if they are the same or confusable**, and then for the
same ordinal. -/
theorem collisions {p q : String} (hp : p ≠ "") (hq : q ≠ "") : Collisions p q := by
  obtain ⟨sep, hsep⟩ := exists_separator hp
  obtain ⟨sep', hsep'⟩ := exists_separator hq
  constructor
  · exact fun n hn => ⟨⟨_, (ofOrdinal_eq_ok_iff hsep).mpr ⟨one_le_iff.mp hn, rfl⟩⟩, _,
      (ofOrdinal_eq_ok_iff hsep').mpr ⟨one_le_iff.mp hn, rfl⟩⟩
  · exact fun m n => ofOrdinal_eq_iff hsep hsep'
  · exact fun m n hm hn hne heq => hne ((ofOrdinal_eq_iff hsep hsep hm hn).mp heq).1
  · intro hne hpq hqp m n hm hn heq
    rcases ((ofOrdinal_eq_iff hsep hsep' hm hn).mp heq).2 with h | ⟨-, h⟩ | ⟨-, h⟩
    · exact hne h
    · exact hpq h
    · exact hqp h
  · intro ps qs ps' qs' hps hqs x hx y hy
    obtain ⟨-, _, h, rfl⟩ := Partition.fillPaths_eq_ok_iff.mp hps
    obtain ⟨-, _, h', rfl⟩ := Partition.fillPaths_eq_ok_iff.mp hqs
    obtain ⟨x, -, rfl⟩ := List.mem_map.mp hx
    obtain ⟨y, -, rfl⟩ := List.mem_map.mp hy
    exact Option.some_inj.trans (append_numeral_eq_iff h h')

/-- A disk whose name ends in a digit, and another with a `p` behind it. -/
theorem collisions_raid : "/dev/md1" ≠ "" ∧ "/dev/md1p" ≠ "" ∧
    Confusable "/dev/md1" "/dev/md1p" ∧ ofOrdinal "/dev/md1" 5 = ofOrdinal "/dev/md1p" 5 ∧
      ofOrdinal "/dev/md1" 5 ≠ ofOrdinal "/dev/md1p" 15 := by
  have hp : "/dev/md1" ≠ "" := by decide
  have hq : "/dev/md1p" ≠ "" := by decide
  have hconfusable : Confusable "/dev/md1" "/dev/md1p" := .inl ⟨⟨'1', rfl, rfl⟩, rfl⟩
  have hshared := (collisions hp hq).shared_iff
  exact ⟨hp, hq, hconfusable, (hshared 5 5 (by decide) (by decide)).mpr ⟨rfl, .inr hconfusable⟩,
    fun heq => absurd ((hshared 5 15 (by decide) (by decide)).mp heq).1 (by decide)⟩

end StorageTopology.DevicePath
