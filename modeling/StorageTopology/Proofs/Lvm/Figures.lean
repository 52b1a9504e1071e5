import Mathlib.Data.List.TakeWhile
import StorageTopology.Lvm.Report
import StorageTopology.Proofs.Decimal.Numeral

/-!
# Texts of numbers

Of a column of numbers only what stands before the first point is read, and the reader of numbers
takes a plus sign.

* `ReadAs`: the texts that are read as a number, whatever stands behind their point.
* `number_word64_iff`, `number_word32_iff`: a column is read as what its text is read as.
* `plainFigure_iff`: the plain figures among those texts.
-/

namespace StorageTopology.Lvm

open Decimal

/-- `cs` is a plain figure of `n`: decimal digits, and perhaps a point and more digits. -/
def PlainFigure (n : Nat) (cs : List Char) : Prop :=
  ∃ digits, isDigits digits ∧ Nat.ofDigitChars 10 digits 0 = n ∧
    (cs = digits ∨ ∃ decimals, isDigits decimals ∧ cs = digits ++ '.' :: decimals)

/-- `cs` is read as `n`: decimal digits of `n`, perhaps behind a plus sign, and perhaps a point and
anything behind it. -/
def ReadAs (n : Nat) (cs : List Char) : Prop :=
  ∃ whole, Unsigned n whole ∧ (cs = whole ∨ ∃ rest, cs = whole ++ '.' :: rest)

/-- What stands before the first point of a text. -/
def wholePart (cs : List Char) : List Char := cs.takeWhile (· ≠ '.')

/-- What stands behind the first point of a text, if it has one. -/
def behindPoint? (cs : List Char) : Option (List Char) := (cs.dropWhile (· ≠ '.')).tail?

section Point

variable {n m : Nat} {cs digits whole rest : List Char}

/-- A text without a point. -/
theorem parts_of_not_mem (h : '.' ∉ whole) :
    wholePart whole = whole ∧ behindPoint? whole = none := by
  have hall : ∀ c ∈ whole, decide (c ≠ '.') = true := fun c hc =>
    decide_eq_true fun heq => h (heq ▸ hc)
  unfold wholePart behindPoint?
  rw [List.takeWhile_eq_self_iff.mpr hall, List.dropWhile_eq_nil_iff.mpr hall]
  exact ⟨rfl, rfl⟩

/-- A text by its first point. -/
theorem parts_append_point (h : '.' ∉ whole) (rest : List Char) :
    wholePart (whole ++ '.' :: rest) = whole ∧ behindPoint? (whole ++ '.' :: rest) = some rest := by
  have hall : ∀ c ∈ whole, decide (c ≠ '.') = true := fun c hc =>
    decide_eq_true fun heq => h (heq ▸ hc)
  unfold wholePart behindPoint?
  rw [List.takeWhile_append_of_pos hall, List.takeWhile_cons_of_neg (by decide), List.append_nil,
    List.dropWhile_append_of_pos hall, List.dropWhile_cons_of_neg (by decide)]
  exact ⟨rfl, rfl⟩

/-- Every text is put together from its parts. -/
theorem eq_parts (cs : List Char) :
    (behindPoint? cs = none ∧ cs = wholePart cs) ∨
      ∃ rest, behindPoint? cs = some rest ∧ cs = wholePart cs ++ '.' :: rest := by
  by_cases h : '.' ∈ cs
  · obtain ⟨whole, rest, rfl, hwhole⟩ := List.eq_append_cons_of_mem h
    obtain ⟨hbefore, hbehind⟩ := parts_append_point hwhole rest
    exact .inr ⟨rest, hbehind, by rw [hbefore]⟩
  · obtain ⟨hbefore, hbehind⟩ := parts_of_not_mem h
    exact .inl ⟨hbehind, hbefore.symm⟩

theorem head?_wholePart_iff : (wholePart cs).head? = some '+' ↔ cs.head? = some '+' := by
  cases cs with
  | nil => rfl
  | cons c cs =>
    unfold wholePart
    by_cases hc : c = '.'
    · subst hc
      simp
    · simp [hc]

theorem point_not_mem (h : isDigits digits) : '.' ∉ digits :=
  fun hmem => absurd (isDigit_of_mem h _ hmem) (by decide)

theorem point_not_mem_unsigned (h : Unsigned n whole) : '.' ∉ whole := by
  obtain ⟨digits, rfl | rfl, hdigits, -⟩ := h
  · exact point_not_mem hdigits
  · simp [point_not_mem hdigits]

theorem readAs_iff : ReadAs n cs ↔ Unsigned n (wholePart cs) := by
  constructor
  · rintro ⟨whole, hwhole, rfl | ⟨rest, rfl⟩⟩
    · rwa [(parts_of_not_mem (point_not_mem_unsigned hwhole)).1]
    · rwa [(parts_append_point (point_not_mem_unsigned hwhole) rest).1]
  · intro h
    refine ⟨wholePart cs, h, ?_⟩
    rcases eq_parts cs with ⟨-, heq⟩ | ⟨rest, -, heq⟩
    · exact .inl heq
    · exact .inr ⟨rest, heq⟩

/-- A text is read as one number at most. -/
theorem ReadAs.unique (hn : ReadAs n cs) (hm : ReadAs m cs) : n = m :=
  (readAs_iff.mp hn).unique (readAs_iff.mp hm)

/-- **The plain figures** among the texts that are read: those without a plus sign and with nothing
but digits behind a point. -/
theorem plainFigure_iff : PlainFigure n cs ↔
    ReadAs n cs ∧ cs.head? ≠ some '+' ∧ ∀ rest ∈ behindPoint? cs, isDigits rest := by
  rw [readAs_iff, ne_eq, ← head?_wholePart_iff]
  constructor
  · rintro ⟨digits, hdigits, hn, rfl | ⟨decimals, hdecimals, rfl⟩⟩
    · obtain ⟨hbefore, hbehind⟩ := parts_of_not_mem (point_not_mem hdigits)
      rw [hbefore, hbehind]
      exact ⟨(unsigned_of_isDigits hdigits).mpr hn, head?_of_isDigits hdigits, nofun⟩
    · obtain ⟨hbefore, hbehind⟩ := parts_append_point (point_not_mem hdigits) decimals
      rw [hbefore, hbehind]
      refine ⟨(unsigned_of_isDigits hdigits).mpr hn, head?_of_isDigits hdigits, ?_⟩
      rintro _ ⟨⟩
      exact hdecimals
  · rintro ⟨⟨digits, hsign, hdigits, hn⟩, hplus, hrest⟩
    have hbefore : wholePart cs = digits := hsign.resolve_right fun heq => hplus (by rw [heq]; rfl)
    refine ⟨digits, hdigits, hn, ?_⟩
    rcases eq_parts cs with ⟨-, heq⟩ | ⟨rest, hbehind, heq⟩
    · exact .inl (heq.trans hbefore)
    · rw [hbefore] at heq
      exact .inr ⟨rest, hrest rest hbehind, heq⟩

end Point

/-! ## Columns -/

theorem column_eq_ok_iff {α : Type} {read : List Char → Option α} {text : List Char} {a : α}
    {name : String} : column name read text = .ok a ↔ read text = some a := by
  unfold column
  cases read text <;> simp

theorem number_word64_iff {name : String} {cs : List Char} {size : UInt64} :
    number name word64? cs = .ok size ↔ ReadAs size.toNat cs := by
  rw [number, column_eq_ok_iff, readAs_iff]
  exact word64?_eq_some_iff_unsigned

theorem number_word32_iff {name : String} {cs : List Char} {count : UInt32} :
    number name word32? cs = .ok count ↔ ReadAs count.toNat cs := by
  rw [number, column_eq_ok_iff, readAs_iff]
  exact word32?_eq_some_iff_unsigned

end StorageTopology.Lvm
