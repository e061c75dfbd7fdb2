import SqlAssembly.Proofs.Numeric.Nearest

/-!
# Shortest decimals

A code below infinity has an exact decimal, and dropping digits goes on only as long as what is
left reads back. So the shortest decimal reads back as the code that it was made for
(`Decimal.nearest_shortest`), whichever way ties go.
-/

namespace SqlAssembly.Numeric.Decimal

variable {f : BinaryFormat}

/-! ## The exact decimal -/

theorem twoPow_dvd_tenPow (n : Nat) : twoPow n ∣ tenPow n := by
  have split : tenPow n = twoPow n * Nat.pow 5 n := Nat.mul_pow 2 5 n
  rw [split]
  exact Nat.dvd_mul_right _ _

/-- There are enough decimal places to write the magnitude down. -/
theorem scale_dvd_units (code : Nat) :
    twoPow f.scale ∣ f.units code * tenPow (f.scale - f.binade code) := by
  have binade : twoPow (f.binade code) ∣ f.units code := Nat.dvd_mul_left _ _
  have places := twoPow_dvd_tenPow (f.scale - f.binade code)
  have enough : f.scale ≤ f.binade code + (f.scale - f.binade code) := by omega
  have power : twoPow f.scale ∣ twoPow (f.binade code + (f.scale - f.binade code)) :=
    Nat.pow_dvd_pow 2 enough
  rw [twoPow_add] at power
  exact Nat.dvd_trans power (Nat.mul_dvd_mul binade places)

theorem numerator_exact (code : Nat) :
    (exact f code).numerator * twoPow f.scale = f.units code * (exact f code).denominator := by
  have num : (exact f code).numerator =
      f.units code * tenPow (f.scale - f.binade code) / twoPow f.scale := by
    have exponent : (exact f code).exponent.toNat = 0 := by
      simp only [exact]
      omega
    rw [numerator, exponent]
    exact Nat.mul_one _
  have den : (exact f code).denominator = tenPow (f.scale - f.binade code) := by
    have exponent : (-(exact f code).exponent).toNat = f.scale - f.binade code := by
      simp only [exact]
      omega
    rw [denominator, exponent]
  rw [num, den, Nat.div_mul_cancel (scale_dvd_units code)]

theorem nearest_exact {code : Nat} (finite : code < f.infinity) :
    (exact f code).nearest f = code := by
  calc (exact f code).nearest f
    _ = f.nearest (f.units code) (twoPow f.scale) :=
      f.nearest_congr (denominator_pos _) (twoPow_pos _) (numerator_exact code)
    _ = code := BinaryFormat.nearest_units finite

/-! ## Dropping digits -/

theorem nearest_withoutDigits {tie : Tie} {code dropped : Nat} {d shorter : Decimal}
    (h : withoutDigits? f tie code dropped d = some shorter) : shorter.nearest f = code := by
  rw [withoutDigits?] at h
  split at h
  · rename_i below
    split at h
    · rename_i above
      split at h
      · cases h
        exact above
      · cases h
        exact below
    · cases h
      exact below
  · split at h
    · rename_i above
      cases h
      exact above
    · contradiction

theorem nearest_dropDigits {tie : Tie} {code : Nat} {d : Decimal} (given : d.nearest f = code)
    (dropped : Nat) : (dropDigits f tie code d dropped).nearest f = code := by
  induction dropped with
  | zero => exact given
  | succ dropped ih =>
      rw [dropDigits]
      split
      · rename_i shorter found
        exact nearest_withoutDigits found
      · exact ih

/-- The shortest decimal reads back. -/
theorem nearest_shortest (tie : Tie) {code : Nat} (finite : code < f.infinity) :
    (shortest f tie code).nearest f = code :=
  nearest_dropDigits (nearest_exact finite) _

theorem coefficient_shortest_pos (tie : Tie) {code : Nat} (finite : code < f.infinity)
    (nonzero : code ≠ 0) : 0 < (shortest f tie code).coefficient := by
  by_contra none
  have zero : (shortest f tie code).coefficient = 0 := by omega
  have read := nearest_shortest tie finite
  rw [nearest_eq_zero_of_coefficient f zero] at read
  exact nonzero read.symm

end SqlAssembly.Numeric.Decimal
