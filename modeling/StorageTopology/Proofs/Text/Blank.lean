import Mathlib.Data.List.Basic
import Mathlib.Data.List.TakeWhile
import StorageTopology.Text.Blank

/-!
# What trimming keeps

Trimming takes away blank characters at the two ends of a text and nothing else.

* `trimmed_padded`: so a text that neither starts nor ends with one (`Tight`) is found again within
  any blank characters around it.
* `exists_around_trimmed`: all that is missing from a trimmed text is blank.
* `count_trimmed`: every other character is kept.
* `prefix_trimmed`: what a text starts with behind its first blank characters stays in front.
-/

namespace StorageTopology.Text

/-- The code points of letters and digits. -/
theorem toNat_of_isAlphanum {c : Char} (h : c.isAlphanum) :
    (65 ≤ c.toNat ∧ c.toNat ≤ 90) ∨ (97 ≤ c.toNat ∧ c.toNat ≤ 122) ∨
      (48 ≤ c.toNat ∧ c.toNat ≤ 57) := by
  have hranges : ((decide (65 ≤ c.val ∧ c.val ≤ 90) ||
      (decide (97 ≤ c.val) && decide (c.val ≤ 122))) ||
        (decide (48 ≤ c.val) && decide (c.val ≤ 57))) = true := h
  simpa [or_assoc, UInt32.le_iff_toNat_le] using hranges

theorem not_isBlank_of_isAlphanum {c : Char} (h : c.isAlphanum) : isBlank c = false := by
  have hcode := toNat_of_isAlphanum h
  simp [isBlank, inRanges, blankRanges]
  omega

/-- No blank character at either end. -/
structure Tight (cs : List Char) : Prop where
  first : ∀ c, cs.head? = some c → isBlank c = false
  last : ∀ c, cs.getLast? = some c → isBlank c = false

theorem tight_of_forall {cs : List Char} (h : ∀ c ∈ cs, isBlank c = false) : Tight cs :=
  ⟨fun c hc => h c (List.mem_of_head? hc), fun c hc => h c (List.mem_of_getLast? hc)⟩

/-- What is dropped ends where something else begins. -/
theorem dropWhile_append_of_head? {α : Type} {p : α → Bool} {before rest : List α}
    (hbefore : ∀ a ∈ before, p a) (hrest : ∀ a, rest.head? = some a → p a = false) :
    (before ++ rest).dropWhile p = rest := by
  rw [List.dropWhile_append_of_pos hbefore]
  cases rest with
  | nil => rfl
  | cons a rest => rw [List.dropWhile_cons_of_neg (by simp [hrest a rfl])]

theorem trimmed_of_all {cs : List Char} (h : ∀ c ∈ cs, isBlank c) : trimmed cs = [] := by
  unfold trimmed
  rw [List.dropWhile_eq_nil_iff.mpr h]
  rfl

/-- **A tight text is found again** within blank characters. -/
theorem trimmed_padded {before cs after : List Char} (hbefore : ∀ c ∈ before, isBlank c)
    (hafter : ∀ c ∈ after, isBlank c) (h : Tight cs) : trimmed (before ++ cs ++ after) = cs := by
  -- An empty text has no end for the blank characters to stop at: all of them go at once.
  by_cases hcs : cs = []
  · subst hcs
    refine trimmed_of_all fun c hc => ?_
    rw [List.append_nil] at hc
    exact (List.mem_append.mp hc).elim (hbefore c) (hafter c)
  · have hfront : (before ++ (cs ++ after)).dropWhile isBlank = cs ++ after := by
      refine dropWhile_append_of_head? hbefore fun c hc => h.first c ?_
      rwa [List.head?_append_of_ne_nil _ hcs] at hc
    have hback : (after.reverse ++ cs.reverse).dropWhile isBlank = cs.reverse := by
      refine dropWhile_append_of_head? (fun c hc => hafter c (List.mem_reverse.mp hc)) ?_
      intro c hc
      rw [List.head?_reverse] at hc
      exact h.last c hc
    unfold trimmed
    rw [List.append_assoc, hfront, List.reverse_append, hback, List.reverse_reverse]

theorem Tight.trimmed_eq {cs : List Char} (h : Tight cs) : trimmed cs = cs := by
  have hpadded : trimmed ([] ++ cs ++ []) = cs := trimmed_padded nofun nofun h
  rwa [List.nil_append, List.append_nil] at hpadded

/-- Nothing but blank characters at the two ends is taken away. -/
theorem exists_around_trimmed (cs : List Char) :
    ∃ before after, (∀ c ∈ before, isBlank c) ∧ (∀ c ∈ after, isBlank c) ∧
      cs = before ++ trimmed cs ++ after := by
  have hback : cs.dropWhile isBlank =
      trimmed cs ++ ((cs.dropWhile isBlank).reverse.takeWhile isBlank).reverse := by
    unfold trimmed
    rw [← List.reverse_append, List.takeWhile_append_dropWhile, List.reverse_reverse]
  refine ⟨cs.takeWhile isBlank, ((cs.dropWhile isBlank).reverse.takeWhile isBlank).reverse,
    fun c hc => List.mem_takeWhile_imp hc,
    fun c hc => List.mem_takeWhile_imp (List.mem_reverse.mp hc), ?_⟩
  rw [List.append_assoc, ← hback, List.takeWhile_append_dropWhile]

theorem count_dropWhile_isBlank {c : Char} (hc : isBlank c = false) (cs : List Char) :
    (cs.dropWhile isBlank).count c = cs.count c := by
  have htaken : (cs.takeWhile isBlank).count c = 0 := by
    refine List.count_eq_zero_of_not_mem fun hmem => ?_
    simp [List.mem_takeWhile_imp hmem] at hc
  calc (cs.dropWhile isBlank).count c
      = (cs.takeWhile isBlank ++ cs.dropWhile isBlank).count c := by
        rw [List.count_append, htaken, Nat.zero_add]
    _ = cs.count c := by rw [List.takeWhile_append_dropWhile]

/-- A character that is not blank stands in a trimmed text as often as before. -/
theorem count_trimmed {c : Char} (hc : isBlank c = false) (cs : List Char) :
    (trimmed cs).count c = cs.count c := by
  unfold trimmed
  rw [List.count_reverse, count_dropWhile_isBlank hc, List.count_reverse,
    count_dropWhile_isBlank hc]

/-- A tight text in front of others, and behind blank characters, stays in front. -/
theorem prefix_trimmed {before mark rest : List Char} (hbefore : ∀ c ∈ before, isBlank c)
    (hmark : Tight mark) (hne : mark ≠ []) : mark <+: trimmed (before ++ mark ++ rest) := by
  have hfront : (before ++ (mark ++ rest)).dropWhile isBlank = mark ++ rest := by
    refine dropWhile_append_of_head? hbefore fun c hc => hmark.first c ?_
    rwa [List.head?_append_of_ne_nil _ hne] at hc
  have hback : ([] ++ mark.reverse).dropWhile isBlank = mark.reverse := by
    refine dropWhile_append_of_head? nofun fun c hc => ?_
    rw [List.head?_reverse] at hc
    exact hmark.last c hc
  unfold trimmed
  rw [List.append_assoc, hfront, List.reverse_append, List.dropWhile_append]
  -- Either all of `rest` is blank, or dropping stops within it.
  split
  · rw [← List.nil_append mark.reverse, hback]
    exact ⟨[], by rw [List.append_nil, List.reverse_reverse]⟩
  · rw [List.reverse_append, List.reverse_reverse]
    exact List.prefix_append _ _

end StorageTopology.Text
