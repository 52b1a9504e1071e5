/-!
# Rounding a quotient

`roundHalfEven num den` is the whole number nearest to `num / den`; of two that are equally near
it is the even one.

* `roundHalfEven_mul`: a whole quotient stays.
* `roundHalfEven_near`: the result is at most half a unit away.
* `even_roundHalfEven_of_tie`: a half goes to the even neighbour.
-/

namespace StorageTopology.Decimal

/-- The whole number nearest to `num / den`, the even one of two. -/
def roundHalfEven (num den : Nat) : Nat :=
  let q := num / den
  let r := num % den
  if 2 * r < den then q
  else if den < 2 * r then q + 1
  else q + q % 2

theorem roundHalfEven_mul (n : Nat) {d : Nat} (h : 0 < d) : roundHalfEven (n * d) d = n := by
  simp [roundHalfEven, Nat.mul_div_cancel _ h, h]

/-- The result is at most half a unit away. -/
theorem roundHalfEven_near (num : Nat) {den : Nat} (h : 0 < den) :
    2 * num ≤ den * (2 * roundHalfEven num den) + den ∧
      den * (2 * roundHalfEven num den) ≤ 2 * num + den := by
  have hsplit := Nat.div_add_mod num den
  have hlt := Nat.mod_lt num h
  simp only [roundHalfEven, Nat.mul_left_comm den 2]
  split
  · omega
  · split
    · rw [Nat.mul_add_one]
      omega
    · rcases Nat.mod_two_eq_zero_or_one (num / den) with hq | hq
      · rw [hq, Nat.add_zero]
        omega
      · rw [hq, Nat.mul_add_one]
        omega

/-- A half goes to the even neighbour. -/
theorem even_roundHalfEven_of_tie {num den : Nat} (h : 2 * (num % den) = den) :
    roundHalfEven num den % 2 = 0 := by
  simp only [roundHalfEven, h, Nat.lt_irrefl, if_false]
  omega

end StorageTopology.Decimal
