import StorageTopology.Decimal.Unsigned

/-!
# Numerals

Every number has one numeral, its shortest decimal form, which is `Nat.toDigits 10`. A reader of
digits takes longer forms as well, but a text of digits that does not begin with a zero is the
numeral of what it is read as.

* `toDigits_ofDigitChars`: to write what was read gives the text back, if it has no leading zero.
* `head?_toDigits`: the numeral of a positive number has no leading zero.
* `unsigned?_eq_some_iff`: a reader takes digits, with or without a plus sign, if their number lies
  below its limit.
* `word32?_numeral_iff`: so the positive words of 32 bits and their numerals determine each other.
-/

namespace StorageTopology.Decimal

theorem digitChar_of_isDigit {c : Char} (h : c.isDigit) :
    (c.toNat - '0'.toNat) < 10 ∧ Nat.digitChar (c.toNat - '0'.toNat) = c := by
  have hc : 48 ≤ c.toNat ∧ c.toNat ≤ 57 := by
    simpa [Char.isDigit, UInt32.le_iff_toNat_le] using h
  have hlt : c.toNat - '0'.toNat < 10 := by
    show c.toNat - 48 < 10
    omega
  refine ⟨hlt, Char.toNat_inj.mp ?_⟩
  rw [Nat.toNat_digitChar_of_lt_ten hlt]
  show 48 + (c.toNat - 48) = c.toNat
  omega

/-- Digits that are read after a positive number are appended to its numeral. -/
theorem toDigits_ofDigitChars_of_pos : ∀ {cs : List Char} {n : Nat}, (∀ c ∈ cs, c.isDigit) →
    0 < n → Nat.toDigits 10 (Nat.ofDigitChars 10 cs n) = Nat.toDigits 10 n ++ cs
  | [], n, _, _ => by rw [Nat.ofDigitChars_nil, List.append_nil]
  | c :: cs, n, hcs, hn => by
    obtain ⟨hlt, hc⟩ := digitChar_of_isDigit (hcs c List.mem_cons_self)
    have hrest : ∀ d ∈ cs, d.isDigit := fun d hd => hcs d (List.mem_cons_of_mem c hd)
    calc Nat.toDigits 10 (Nat.ofDigitChars 10 (c :: cs) n)
        = Nat.toDigits 10 (10 * n + (c.toNat - '0'.toNat)) ++ cs := by
          rw [Nat.ofDigitChars_cons, toDigits_ofDigitChars_of_pos hrest (by omega)]
      _ = (Nat.toDigits 10 n ++ Nat.toDigits 10 (c.toNat - '0'.toNat)) ++ cs := by
          rw [Nat.toDigits_append_toDigits (by decide) hn hlt]
      _ = Nat.toDigits 10 n ++ (c :: cs) := by
          rw [Nat.toDigits_of_lt_base hlt, hc, List.append_assoc]
          rfl

/-- **A text of digits without a leading zero is a numeral**, of the number that it is read as. -/
theorem toDigits_ofDigitChars {cs : List Char} (hcs : isDigits cs) (hzero : cs.head? ≠ some '0') :
    0 < Nat.ofDigitChars 10 cs 0 ∧ Nat.toDigits 10 (Nat.ofDigitChars 10 cs 0) = cs := by
  cases cs with
  | nil => simp [isDigits] at hcs
  | cons c cs =>
    have hall : ∀ d ∈ c :: cs, d.isDigit := by
      simpa [isDigits] using hcs
    obtain ⟨hlt, hc⟩ := digitChar_of_isDigit (hall c List.mem_cons_self)
    have hpos : 0 < c.toNat - '0'.toNat := by
      refine Nat.pos_of_ne_zero fun heq => hzero ?_
      rw [heq] at hc
      exact congrArg some hc.symm
    have hrest : ∀ d ∈ cs, d.isDigit := fun d hd => hall d (List.mem_cons_of_mem c hd)
    have hread :
        Nat.ofDigitChars 10 (c :: cs) 0 = Nat.ofDigitChars 10 cs (c.toNat - '0'.toNat) := by
      rw [Nat.ofDigitChars_cons, Nat.mul_zero, Nat.zero_add]
    refine ⟨?_, ?_⟩
    · rw [hread, Nat.ofDigitChars_eq_ofDigitChars_zero]
      have hpow : 0 < 10 ^ cs.length * (c.toNat - '0'.toNat) :=
        Nat.mul_pos (Nat.pow_pos (by decide)) hpos
      omega
    · rw [hread, toDigits_ofDigitChars_of_pos hrest hpos, Nat.toDigits_of_lt_base hlt, hc]
      rfl

theorem isDigit_of_mem_toDigits {n : Nat} {c : Char} (h : c ∈ Nat.toDigits 10 n) : c.isDigit :=
  Nat.isDigit_of_mem_toDigits (by decide) (by decide) h

/-- A numeral has nothing but digits. -/
theorem not_mem_repr {c : Char} (hc : ¬c.isDigit) (n : Nat) : c ∉ n.repr.toList := by
  rw [Nat.toList_repr]
  exact fun h => hc (isDigit_of_mem_toDigits h)

theorem isDigits_toDigits (n : Nat) : isDigits (Nat.toDigits 10 n) := by
  have hall : ∀ c ∈ Nat.toDigits 10 n, c.isDigit := fun _ => isDigit_of_mem_toDigits
  simpa [isDigits, Nat.toDigits_ne_nil] using hall

/-- The numeral of a positive number does not begin with a zero. -/
theorem head?_toDigits {n : Nat} (hn : 0 < n) : (Nat.toDigits 10 n).head? ≠ some '0' := by
  induction n using Nat.strongRecOn with
  | ind n ih =>
    by_cases hlt : n < 10
    · rw [Nat.toDigits_of_lt_base hlt]
      intro hzero
      have heq := Nat.digitChar_eq_zero.mp (Option.some.inj hzero)
      omega
    · have hhead : (Nat.toDigits 10 n).head? = (Nat.toDigits 10 (n / 10)).head? := by
        rw [Nat.toDigits_of_base_le (by decide) (by omega), List.head?_append]
        cases hdigits : Nat.toDigits 10 (n / 10) with
        | nil => exact absurd hdigits Nat.toDigits_ne_nil
        | cons c cs => rfl
      rw [hhead]
      exact ih (n / 10) (by omega) (by omega)

/-- `cs` are decimal digits of `n`, perhaps behind a plus sign. -/
def Unsigned (n : Nat) (cs : List Char) : Prop :=
  ∃ digits, (cs = digits ∨ cs = '+' :: digits) ∧ isDigits digits ∧
    Nat.ofDigitChars 10 digits 0 = n

theorem isDigit_of_mem {cs : List Char} (hcs : isDigits cs) : ∀ c ∈ cs, c.isDigit := by
  have hall : cs ≠ [] ∧ ∀ c ∈ cs, c.isDigit := by
    simpa [isDigits] using hcs
  exact hall.2

theorem head?_of_isDigits {cs : List Char} (hcs : isDigits cs) : cs.head? ≠ some '+' := by
  intro hplus
  cases cs with
  | nil => simp at hplus
  | cons c cs =>
    obtain rfl := Option.some.inj hplus
    simp [isDigits] at hcs

/-- **What is read as an unsigned number** is what writes one below the limit. -/
theorem unsigned?_eq_some_iff {limit n : Nat} {cs : List Char} :
    unsigned? limit cs = some n ↔ Unsigned n cs ∧ n < limit := by
  have hread : ∀ digits,
      (if isDigits digits && decide (Nat.ofDigitChars 10 digits 0 < limit) then
        some (Nat.ofDigitChars 10 digits 0) else none) = some n ↔
      (isDigits digits ∧ Nat.ofDigitChars 10 digits 0 = n) ∧ n < limit := by
    intro digits
    simp only [Option.ite_none_right_eq_some, Bool.and_eq_true, decide_eq_true_eq,
      Option.some.injEq]
    constructor
    · rintro ⟨⟨hdigits, hlt⟩, rfl⟩
      exact ⟨⟨hdigits, rfl⟩, hlt⟩
    · rintro ⟨⟨hdigits, rfl⟩, hlt⟩
      exact ⟨⟨hdigits, hlt⟩, rfl⟩
  unfold unsigned?
  rw [hread]
  refine and_congr_left fun _ => ?_
  by_cases hplus : cs.head? = some '+'
  · obtain ⟨rest, rfl⟩ := List.head?_eq_some_iff.mp hplus
    rw [if_pos hplus, List.tail_cons]
    constructor
    · exact fun ⟨hdigits, hn⟩ => ⟨rest, .inr rfl, hdigits, hn⟩
    · rintro ⟨digits, rfl | heq, hdigits, hn⟩
      · exact absurd hplus (head?_of_isDigits hdigits)
      · obtain rfl : rest = digits := (List.cons.inj heq).2
        exact ⟨hdigits, hn⟩
  · rw [if_neg hplus]
    constructor
    · exact fun ⟨hdigits, hn⟩ => ⟨cs, .inl rfl, hdigits, hn⟩
    · rintro ⟨digits, rfl | rfl, hdigits, hn⟩
      · exact ⟨hdigits, hn⟩
      · exact absurd rfl hplus

/-- A text writes one number at most. -/
theorem Unsigned.unique {n m : Nat} {cs : List Char} (hn : Unsigned n cs) (hm : Unsigned m cs) :
    n = m := by
  have hread : unsigned? (n + m + 1) cs = some n :=
    unsigned?_eq_some_iff.mpr ⟨hn, by omega⟩
  have hread' : unsigned? (n + m + 1) cs = some m :=
    unsigned?_eq_some_iff.mpr ⟨hm, by omega⟩
  exact Option.some.inj (hread.symm.trans hread')

theorem word64?_eq_some_iff_unsigned {cs : List Char} {n : UInt64} :
    word64? cs = some n ↔ Unsigned n.toNat cs := by
  unfold word64?
  rw [Option.map_eq_some_iff]
  constructor
  · rintro ⟨m, hread, rfl⟩
    obtain ⟨hm, hlt⟩ := unsigned?_eq_some_iff.mp hread
    rwa [UInt64.toNat_ofNat_of_lt' hlt]
  · intro hn
    exact ⟨n.toNat, unsigned?_eq_some_iff.mpr ⟨hn, n.toNat_lt_size⟩, UInt64.ofNat_toNat⟩

theorem word32?_eq_some_iff_unsigned {cs : List Char} {n : UInt32} :
    word32? cs = some n ↔ Unsigned n.toNat cs := by
  unfold word32?
  rw [Option.map_eq_some_iff]
  constructor
  · rintro ⟨m, hread, rfl⟩
    obtain ⟨hm, hlt⟩ := unsigned?_eq_some_iff.mp hread
    rwa [UInt32.toNat_ofNat_of_lt' hlt]
  · intro hn
    exact ⟨n.toNat, unsigned?_eq_some_iff.mpr ⟨hn, n.toNat_lt_size⟩, UInt32.ofNat_toNat⟩

/-- Digits without a sign write the number that they are read as. -/
theorem unsigned_of_isDigits {cs : List Char} (hcs : isDigits cs) {n : Nat} :
    Unsigned n cs ↔ Nat.ofDigitChars 10 cs 0 = n := by
  constructor
  · rintro ⟨digits, rfl | rfl, -, hn⟩
    · exact hn
    · exact absurd rfl (head?_of_isDigits hcs)
  · exact fun hn => ⟨cs, .inl rfl, hcs, hn⟩

/-- To read digits, without a sign, as a word of 32 bits. -/
theorem word32?_eq_some_iff {cs : List Char} (hcs : isDigits cs) {n : UInt32} :
    word32? cs = some n ↔ Nat.ofDigitChars 10 cs 0 = n.toNat := by
  rw [word32?_eq_some_iff_unsigned, unsigned_of_isDigits hcs]

/-- **A positive word and its numeral determine each other.** -/
theorem word32?_numeral_iff {cs : List Char} {n : UInt32} :
    (isDigits cs ∧ cs.head? ≠ some '0') ∧ word32? cs = some n ↔
      0 < n.toNat ∧ cs = Nat.toDigits 10 n.toNat := by
  constructor
  · rintro ⟨⟨hdigits, hzero⟩, hread⟩
    rw [word32?_eq_some_iff hdigits] at hread
    obtain ⟨hpos, hwrite⟩ := toDigits_ofDigitChars hdigits hzero
    rw [hread] at hpos hwrite
    exact ⟨hpos, hwrite.symm⟩
  · rintro ⟨hpos, rfl⟩
    refine ⟨⟨isDigits_toDigits _, head?_toDigits hpos⟩, ?_⟩
    rw [word32?_eq_some_iff (isDigits_toDigits _)]
    exact Nat.ofDigitChars_ten_toDigits

end StorageTopology.Decimal
