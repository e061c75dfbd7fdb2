import Mathlib.Data.Nat.Basic
import SqlAssembly.Numeric.Decimal

/-!
# Rounding to a format

What the code nearest to a quotient depends on, and where it is exact. The quotient alone counts,
not the numbers that it is written with (`BinaryFormat.nearest_congr`); the magnitude of a code
below infinity is rounded to that code (`BinaryFormat.nearest_units`); and the shortcuts that a
reader takes around large exponents change nothing (`Decimal.read_eq_nearest`).
-/

namespace SqlAssembly.Numeric

/-! ## Powers -/

theorem twoPow_le {m n : Nat} (h : m ≤ n) : twoPow m ≤ twoPow n :=
  Nat.pow_le_pow_right (by omega) h

theorem twoPow_succ (n : Nat) : twoPow (n + 1) = twoPow n * 2 := rfl

/-- Three bits hold no more than one decimal digit. -/
theorem twoPow_le_tenPow (n : Nat) : twoPow (3 * n) ≤ tenPow n := by
  have eight : twoPow (3 * n) = Nat.pow 8 n := Nat.pow_mul 2 3 n
  rw [eight]
  exact Nat.pow_le_pow_left (by omega) n

theorem le_log2_of_twoPow_le {k n : Nat} (h : twoPow k ≤ n) : k ≤ n.log2 := by
  have positive := twoPow_pos k
  exact (Nat.le_log2 (by omega)).mpr h

theorem lt_twoPow_log2_succ (n : Nat) : n < twoPow (n.log2 + 1) := Nat.lt_log2_self

theorem log2_eq_of_between {k n : Nat} (low : twoPow k ≤ n) (high : n < twoPow (k + 1)) :
    n.log2 = k := by
  have positive := twoPow_pos k
  exact (Nat.log2_eq_iff (by omega)).mpr ⟨low, high⟩

/-! ## Quotients -/

theorem div_congr {num den num' den' : Nat} (pos : 0 < den) (pos' : 0 < den')
    (same : num * den' = num' * den) : num / den = num' / den' := by
  calc num / den
    _ = num * den' / (den * den') := (Nat.mul_div_mul_right num den pos').symm
    _ = num' * den / (den' * den) := by rw [same, Nat.mul_comm den den']
    _ = num' / den' := Nat.mul_div_mul_right num' den' pos

theorem roundDiv_mul_mul (num den : Nat) {k : Nat} (pos : 0 < k) :
    roundDiv (num * k) (den * k) = roundDiv num den := by
  have floor : num * k / (den * k) = num / den := Nat.mul_div_mul_right num den pos
  have rest : num * k % (den * k) = num % den * k := Nat.mul_mod_mul_right k num den
  have below : 2 * (num % den * k) < den * k ↔ 2 * (num % den) < den := by
    rw [← Nat.mul_assoc, Nat.mul_lt_mul_right pos]
  have above : den * k < 2 * (num % den * k) ↔ den < 2 * (num % den) := by
    rw [← Nat.mul_assoc, Nat.mul_lt_mul_right pos]
  simp only [roundDiv, floor, rest, below, above]

theorem roundDiv_congr {num den num' den' : Nat} (pos : 0 < den) (pos' : 0 < den')
    (same : num * den' = num' * den) : roundDiv num den = roundDiv num' den' := by
  calc roundDiv num den
    _ = roundDiv (num * den') (den * den') := (roundDiv_mul_mul num den pos').symm
    _ = roundDiv (num' * den) (den' * den) := by rw [same, Nat.mul_comm den den']
    _ = roundDiv num' den' := roundDiv_mul_mul num' den' pos

/-- What lies below one half is rounded to zero. -/
theorem roundDiv_eq_zero {num den : Nat} (small : 2 * num < den) : roundDiv num den = 0 := by
  have less : num < den := by omega
  rw [roundDiv, Nat.mod_eq_of_lt less, Nat.div_eq_of_lt less, if_pos small]

/-! ## Codes -/

namespace BinaryFormat

variable (f : BinaryFormat)

/-- Only the quotient counts. -/
theorem nearest_congr {num den num' den' : Nat} (pos : 0 < den) (pos' : 0 < den')
    (same : num * den' = num' * den) : f.nearest num den = f.nearest num' den' := by
  have scaled : num * twoPow f.scale * den' = num' * twoPow f.scale * den := by
    rw [Nat.mul_right_comm, same, Nat.mul_right_comm]
  have quotient := div_congr pos pos' scaled
  have rounded (b : Nat) : roundDiv (num * twoPow f.scale) (den * twoPow b) =
      roundDiv (num' * twoPow f.scale) (den' * twoPow b) := by
    apply roundDiv_congr (Nat.mul_pos pos (twoPow_pos b)) (Nat.mul_pos pos' (twoPow_pos b))
    rw [← Nat.mul_assoc, scaled, Nat.mul_assoc _ den]
  simp only [nearest, quotient, rounded]

/-- What lies below half of the least magnitude has the code of zero. -/
theorem nearest_eq_zero {num den : Nat} (small : 2 * (num * twoPow f.scale) < den) :
    f.nearest num den = 0 := by
  have quotient : num * twoPow f.scale / den = 0 := Nat.div_eq_of_lt (by omega)
  have binade : (0 : Nat).log2 - f.fractionBits = 0 := by simp
  have one : den * twoPow 0 = den := Nat.mul_one den
  rw [nearest, quotient, binade, one, roundDiv_eq_zero small]
  simp

/-- A quotient that has more binades below it than the format has is rounded to infinity. -/
theorem nearest_eq_infinity {num den : Nat}
    (large : twoPow (twoPow f.exponentBits + f.fractionBits) ≤ num * twoPow f.scale / den) :
    f.nearest num den = f.infinity := by
  have binades := le_log2_of_twoPow_le large
  have many : twoPow f.exponentBits - 1 ≤
      (num * twoPow f.scale / den).log2 - f.fractionBits := by omega
  have beyond := Nat.mul_le_mul_right (twoPow f.fractionBits) many
  rw [nearest, infinity]
  omega

/-! ## Magnitudes of codes -/

variable {f}

theorem significand_lt (code : Nat) : f.significand code < twoPow (f.fractionBits + 1) := by
  have fraction := Nat.mod_lt code (twoPow_pos f.fractionBits)
  rw [twoPow_succ, significand]
  split <;> omega

/-- Above the lowest binade the leading bit is set. -/
theorem le_significand {code : Nat} (normal : f.binade code ≠ 0) :
    twoPow f.fractionBits ≤ f.significand code := by
  have large : ¬ code < twoPow f.fractionBits := by
    intro small
    rw [binade, Nat.div_eq_of_lt small] at normal
    omega
  rw [significand, if_neg large]
  omega

/-- A code is its binade and its significand, the leading bit of which counts as a carry. -/
theorem binade_mul_add_significand (code : Nat) :
    f.binade code * twoPow f.fractionBits + f.significand code = code := by
  have split := Nat.div_add_mod' code (twoPow f.fractionBits)
  rw [binade, significand]
  by_cases small : code < twoPow f.fractionBits
  · rw [if_pos small, Nat.div_eq_of_lt small]
    omega
  · have one : 1 ≤ code / twoPow f.fractionBits :=
      (Nat.one_le_div_iff (twoPow_pos _)).mpr (by omega)
    have carry := Nat.mul_le_mul_right (twoPow f.fractionBits) one
    rw [if_neg small, Nat.sub_mul]
    omega

theorem log2_units (code : Nat) :
    (f.units code).log2 - f.fractionBits = f.binade code := by
  have above := significand_lt (f := f) code
  by_cases normal : f.binade code = 0
  · have low : (f.significand code).log2 < f.fractionBits + 1 := by
      by_cases zero : f.significand code = 0
      · rw [zero, Nat.log2_zero]
        omega
      · exact (Nat.log2_lt zero).mpr above
    have one : f.units code = f.significand code := by
      rw [units, normal]
      exact Nat.mul_one _
    rw [one, normal]
    omega
  · have lower : twoPow (f.fractionBits + f.binade code) ≤ f.units code := by
      rw [twoPow_add, units]
      exact Nat.mul_le_mul_right _ (le_significand normal)
    have upper : f.units code < twoPow (f.fractionBits + f.binade code + 1) := by
      rw [Nat.add_right_comm, twoPow_add, units]
      exact Nat.mul_lt_mul_of_pos_right above (twoPow_pos _)
    rw [log2_eq_of_between lower upper]
    omega

/-- The magnitude of a code below infinity is rounded to the code. -/
theorem nearest_units {code : Nat} (finite : code < f.infinity) :
    f.nearest (f.units code) (twoPow f.scale) = code := by
  have scale := twoPow_pos f.scale
  have quotient : f.units code * twoPow f.scale / twoPow f.scale = f.units code :=
    Nat.mul_div_cancel _ scale
  have rounded : roundDiv (f.units code * twoPow f.scale)
      (twoPow f.scale * twoPow (f.binade code)) = f.significand code := by
    rw [units, Nat.mul_assoc, Nat.mul_comm (twoPow (f.binade code))]
    exact roundDiv_mul _ (Nat.mul_pos scale (twoPow_pos _))
  rw [nearest, quotient, log2_units, rounded, binade_mul_add_significand]
  omega

end BinaryFormat

/-! ## Decimals -/

namespace Decimal

theorem denominator_pos (d : Decimal) : 0 < d.denominator := tenPow_pos _

theorem nearest_eq_zero_of_coefficient (f : BinaryFormat) {d : Decimal}
    (zero : d.coefficient = 0) : d.nearest f = 0 := by
  have num : d.numerator = 0 := by rw [numerator, zero, Nat.zero_mul]
  apply f.nearest_eq_zero
  rw [num, Nat.zero_mul]
  exact d.denominator_pos

theorem nearest_of_exceeds {f : BinaryFormat} {d : Decimal} (positive : d.coefficient ≠ 0)
    (h : d.exceeds f) : d.nearest f = f.infinity := by
  rw [exceeds] at h
  have bits := twoPow_pos f.exponentBits
  have one : d.denominator = 1 := by
    rw [denominator, show (-d.exponent).toNat = 0 by omega]
    rfl
  have power : twoPow (twoPow f.exponentBits) ≤ tenPow d.exponent.toNat :=
    Nat.le_trans (twoPow_le (by omega)) (twoPow_le_tenPow _)
  have num : twoPow (twoPow f.exponentBits) ≤ d.numerator :=
    Nat.le_trans power (Nat.le_mul_of_pos_left _ (by omega))
  have fraction : twoPow f.fractionBits ≤ twoPow f.scale :=
    twoPow_le (by rw [BinaryFormat.scale]; omega)
  apply f.nearest_eq_infinity
  rw [one, Nat.div_one, twoPow_add]
  exact Nat.mul_le_mul num fraction

theorem nearest_of_vanishes {f : BinaryFormat} {d : Decimal} (h : d.vanishes f) :
    d.nearest f = 0 := by
  rw [vanishes] at h
  have num : d.numerator = d.coefficient := by
    rw [numerator, show d.exponent.toNat = 0 by omega]
    exact Nat.mul_one _
  have coefficient := lt_twoPow_log2_succ d.coefficient
  have scaled : d.coefficient * twoPow f.scale <
      twoPow (d.coefficient.log2 + 1 + f.scale) := by
    rw [twoPow_add]
    exact Nat.mul_lt_mul_of_pos_right coefficient (twoPow_pos _)
  have doubled : 2 * (d.coefficient * twoPow f.scale) <
      twoPow (d.coefficient.log2 + 1 + f.scale + 1) := by
    rw [twoPow_succ]
    omega
  apply f.nearest_eq_zero
  rw [num]
  calc 2 * (d.coefficient * twoPow f.scale)
    _ < twoPow (d.coefficient.log2 + 1 + f.scale + 1) := doubled
    _ ≤ twoPow (3 * (-d.exponent).toNat) := twoPow_le (by omega)
    _ ≤ d.denominator := twoPow_le_tenPow _

/-- The shortcuts for large exponents change no result. -/
theorem read_eq_nearest (f : BinaryFormat) (d : Decimal) : d.read f = d.nearest f := by
  rw [read]
  by_cases zero : d.coefficient = 0
  · rw [if_pos zero, nearest_eq_zero_of_coefficient f zero]
  · rw [if_neg zero]
    by_cases large : d.exceeds f
    · rw [if_pos large, nearest_of_exceeds zero large]
    · rw [if_neg large]
      by_cases small : d.vanishes f
      · rw [if_pos small, nearest_of_vanishes small]
      · rw [if_neg small]

/-- Decimals of one value are read as one code. -/
theorem nearest_congr (f : BinaryFormat) {d e : Decimal}
    (same : d.numerator * e.denominator = e.numerator * d.denominator) :
    d.nearest f = e.nearest f :=
  f.nearest_congr d.denominator_pos e.denominator_pos same

end Decimal

end SqlAssembly.Numeric
