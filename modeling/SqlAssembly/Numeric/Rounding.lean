/-!
# Rounding a quotient

Every conversion between number formats comes down to one question: which natural number is
nearest to a quotient? A quotient half-way between two numbers goes to the even one.
-/

namespace SqlAssembly.Numeric

/-- The natural number nearest to `num / den`; of two equally near ones the even one. -/
def roundDiv (num den : Nat) : Nat :=
  let floor := num / den
  let rest := num % den
  if 2 * rest < den then floor
  else if den < 2 * rest then floor + 1
  else if floor % 2 = 0 then floor
  else floor + 1

/-- A number that divides evenly is not moved. -/
theorem roundDiv_mul (q : Nat) {den : Nat} (pos : 0 < den) : roundDiv (q * den) den = q := by
  simp [roundDiv, Nat.mul_div_cancel _ pos, Nat.mul_mod_left, pos]

theorem div_le_roundDiv (num den : Nat) : num / den ≤ roundDiv num den := by
  simp only [roundDiv]
  split
  · exact Nat.le_refl _
  · split
    · omega
    · split <;> omega

theorem roundDiv_le_div_succ (num den : Nat) : roundDiv num den ≤ num / den + 1 := by
  simp only [roundDiv]
  split
  · omega
  · split
    · omega
    · split <;> omega

end SqlAssembly.Numeric
