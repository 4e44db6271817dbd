/-!
Rounding a quotient to the nearest whole number, halves to the even neighbour. Main statements: the
result is within half a unit of the quotient, and a whole quotient is its own rounding.
-/

namespace ReportPress

/-- The whole number nearest to `num / den`; of two that are equally near, the even one. -/
def roundHalfEven (num den : Nat) : Nat :=
  let quotient := num / den
  let remainder := num % den
  if 2 * remainder < den then quotient
  else if den < 2 * remainder then quotient + 1
  else quotient + quotient % 2

theorem roundHalfEven_le_succ (num den : Nat) : roundHalfEven num den ≤ num / den + 1 := by
  simp only [roundHalfEven]
  split
  · omega
  · split <;> omega

/-- A whole quotient is its own rounding. -/
theorem roundHalfEven_mul {den : Nat} (n : Nat) (h : 0 < den) :
    roundHalfEven (n * den) den = n := by
  simp [roundHalfEven, Nat.mul_div_cancel _ h, h]

/-- Rounding costs at most half a unit, up or down. -/
theorem roundHalfEven_near (num : Nat) {den : Nat} (h : 0 < den) :
    2 * num ≤ 2 * (roundHalfEven num den * den) + den ∧
      2 * (roundHalfEven num den * den) ≤ 2 * num + den := by
  have hDiv := Nat.div_add_mod num den
  have hMod := Nat.mod_lt num h
  rw [Nat.mul_comm] at hDiv
  simp only [roundHalfEven]
  split
  · omega
  · split
    · rw [Nat.add_mul]; omega
    · have hParity := Nat.mod_two_eq_zero_or_one (num / den)
      rcases hParity with hp | hp <;> rw [hp, Nat.add_mul] <;> omega

end ReportPress
