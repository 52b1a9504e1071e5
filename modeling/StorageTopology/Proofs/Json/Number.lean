import Mathlib.Data.List.TakeWhile
import StorageTopology.Json.Record
import StorageTopology.Proofs.Decimal.Numeral

/-!
# Integers are read as they are written

* `Number.read?_write_ofInt`: **the numeral of an integer is read as the number that wrote it**, for
  every integer.
* `Number.int?_ofInt`: and its value is the integer; zero has no sign.
* `word32?_nat`, `word64?_nat`, `int32?_int`: so a field of bounded width is read back over the
  whole range of its type, both limits included.
-/

namespace StorageTopology.Json

namespace Number

theorem ofNat_eq_ofInt (n : Nat) : ofNat n = ofInt n := by
  simp [ofNat, ofInt]

theorem write_ofInt (i : Int) :
    (ofInt i).write = (if i < 0 then ['-'] else []) ++ Nat.toDigits 10 i.natAbs := by
  simp [write, ofInt]

/-- Digits are the whole part of a number, if there is no zero too many in front. -/
theorem read?_digits {sign digits : List Char} (hsign : sign = [] ∨ sign = ['-'])
    (hdigits : ∀ c ∈ digits, c.isDigit = true) (hne : digits ≠ [])
    (hzero : digits.head? ≠ some '0' ∨ digits.length = 1) :
    read? (sign ++ digits) = some ⟨decide (sign = ['-']), digits, [], none⟩ := by
  have hbody : (if (sign ++ digits).head? = some '-' then (sign ++ digits).tail
      else sign ++ digits) = digits ∧
        decide ((sign ++ digits).head? = some '-') = decide (sign = ['-']) := by
    rcases hsign with rfl | rfl
    · obtain ⟨c, rest, rfl⟩ := List.exists_cons_of_ne_nil hne
      have hc : c ≠ '-' := by
        rintro rfl
        exact absurd (hdigits '-' List.mem_cons_self) (by decide)
      simp [hc]
    · simp
  have htake : digits.takeWhile Char.isDigit = digits :=
    List.takeWhile_eq_self_iff.mpr hdigits
  have hdrop : digits.dropWhile Char.isDigit = [] :=
    List.dropWhile_eq_nil_iff.mpr hdigits
  have hlength : ¬(digits.isEmpty || (digits.head? = some '0' && digits.length ≠ 1)) = true := by
    rcases hzero with hzero | hzero <;> simp [hne, hzero]
  unfold read?
  simp only [hbody, htake, hdrop, hlength]
  rfl

/-- **The numeral of an integer is read as the number that wrote it.** -/
theorem read?_write_ofInt (i : Int) : read? (ofInt i).write = some (ofInt i) := by
  have hzero : (Nat.toDigits 10 i.natAbs).head? ≠ some '0' ∨
      (Nat.toDigits 10 i.natAbs).length = 1 := by
    rcases Nat.eq_zero_or_pos i.natAbs with h | h
    · exact .inr (by rw [h]; rfl)
    · exact .inl (Decimal.head?_toDigits h)
  rw [write_ofInt, read?_digits (by split <;> simp) (fun c => Decimal.isDigit_of_mem_toDigits)
    Nat.toDigits_ne_nil hzero]
  by_cases h : i < 0 <;> simp [ofInt, h]

/-- The value of the number that writes an integer. -/
theorem int?_ofInt (i : Int) : (ofInt i).int? = some i := by
  have hvalue : Nat.ofDigitChars 10 (Nat.toDigits 10 i.natAbs) 0 = i.natAbs :=
    Nat.ofDigitChars_ten_toDigits
  by_cases h : i < 0
  · have hne : i ≠ 0 := by omega
    have hneg : -(i.natAbs : Int) = i := by omega
    simp only [int?, ofInt, hvalue, h, decide_true, hneg]
    simp [hne]
  · have habs : (i.natAbs : Int) = i := by omega
    simp only [int?, ofInt, hvalue, h, decide_false, habs]
    simp

/-- An integer starts as a number does, and goes on with digits. -/
theorem write_ofInt_eq_cons (i : Int) : ∃ c cs, (ofInt i).write = c :: cs ∧
    (c.isDigit = true ∨ c = '-') ∧ ∀ d ∈ cs, d.isDigit = true := by
  rw [write_ofInt]
  split
  · exact ⟨'-', _, rfl, .inr rfl, fun d => Decimal.isDigit_of_mem_toDigits⟩
  · obtain ⟨c, cs, h⟩ := List.exists_cons_of_ne_nil (Nat.toDigits_ne_nil (n := i.natAbs) (b := 10))
    have hmem {d : Char} (hd : d ∈ c :: cs) : d.isDigit = true :=
      Decimal.isDigit_of_mem_toDigits (h ▸ hd)
    exact ⟨c, cs, h, .inl (hmem List.mem_cons_self), fun d hd => hmem (List.mem_cons_of_mem c hd)⟩

end Number

namespace Value

/-! ## Fields of bounded width -/

theorem nat_eq_int (n : Nat) : nat n = int n := congrArg number (Number.ofNat_eq_ofInt n)

theorem intIn?_int {lowest highest i : Int} (hlow : lowest ≤ i) (hhigh : i ≤ highest) :
    (int i).intIn? lowest highest = some i := by
  simp [int, intIn?, Number.int?_ofInt, Option.filter, hlow, hhigh]

theorem word32?_nat (n : UInt32) : (nat n.toNat).word32? = some n := by
  have hn : n.toNat < UInt32.size := n.toNat_lt
  rw [word32?, nat_eq_int, intIn?_int (by omega) (by omega)]
  simp

theorem word64?_nat (n : UInt64) : (nat n.toNat).word64? = some n := by
  have hn : n.toNat < UInt64.size := n.toNat_lt
  rw [word64?, nat_eq_int, intIn?_int (by omega) (by omega)]
  simp

theorem int32?_int (i : Int32) : (int i.toInt).int32? = some i := by
  rw [int32?, intIn?_int i.minValue_le_toInt i.toInt_le]
  simp

end Value

end StorageTopology.Json
