import Mathlib.Algebra.Order.Archimedean.Basic
import SqlAssembly.Numeric.BinaryFloat
import SqlAssembly.Proofs.Numeric.NearestEven
import SqlAssembly.Proofs.Numeric.Neighbours

/-!
# What the shortest decimal is

The shortest decimal of a code reads back as the code, no decimal that does has fewer digits or a
coarser last one, and none with the same last digit is closer to the magnitude
(`Decimal.isShortest_shortest`). Its last digit is not much finer than the gap between magnitudes,
so a decimal that is shortest in one format is far too coarse to have a rival in a format of much
smaller gaps (`Decimal.IsShortest.eq_of_nearest`).
-/

namespace SqlAssembly.Numeric

namespace Decimal

variable {f : BinaryFormat} {tie : Tie} {code : Nat} {d t : Decimal}

/-! ## Dropping digits -/

section Dropping

variable {dropped : Nat}

theorem withoutDigits_zero (given : d.nearest f = code) :
    withoutDigits? f tie code 0 d = some d := by
  have same : d.below 0 = d := by
    rw [below]
    congr
    · exact Nat.div_one _
    · exact Int.add_zero _
  have nothing : d.isNearerAbove tie 0 = false := by
    have rest : d.coefficient % tenPow 0 = 0 := Nat.mod_one _
    unfold isNearerAbove
    rw [rest, if_pos (tenPow_pos 0)]
  rw [withoutDigits?, same, if_pos given, nothing, if_neg Bool.false_ne_true, ite_self]

theorem withoutDigits_eq_none (h : withoutDigits? f tie code dropped d = none) :
    (d.below dropped).nearest f ≠ code ∧ (d.above dropped).nearest f ≠ code := by
  rw [withoutDigits?] at h
  split at h
  · split at h
    · split at h <;> cases h
    · cases h
  · split at h
    · cases h
    · exact ⟨‹_›, ‹_›⟩

theorem exponent_withoutDigits {shorter : Decimal}
    (h : withoutDigits? f tie code dropped d = some shorter) :
    shorter.exponent = d.exponent + dropped := by
  rw [withoutDigits?] at h
  split at h
  · split at h
    · split at h <;> (cases h; rfl)
    · cases h
      rfl
  · split at h
    · cases h
      rfl
    · cases h

/-- Of all decimals with so many places that read back, none is closer than the one taken. -/
theorem closest_withoutDigits {shorter : Decimal} (given : d.nearest f = code)
    (h : withoutDigits? f tie code dropped d = some shorter)
    (grid : t.exponent = d.exponent + dropped) (ht : t.nearest f = code) :
    |shorter.value - d.value| ≤ |t.value - d.value| := by
  obtain ⟨up, down⟩ := d.nearer_neighbour tie dropped
  rw [withoutDigits?] at h
  rcases neighbour_reads grid ht given with ⟨reads, near⟩ | ⟨reads, near⟩
  · rw [if_pos reads] at h
    split at h
    · split at h
      · rename_i above
        cases h
        exact (up above).trans near
      · cases h
        exact near
    · cases h
      exact near
  · rw [if_pos reads, if_pos reads] at h
    split at h
    · split at h
      · cases h
        exact near
      · rename_i below
        cases h
        exact (down (by simpa using below)).trans near
    · cases h
      exact near

/-- The answer is one decimal without its last digits, and nothing with fewer places reads
back. -/
theorem dropDigits_spec (tie : Tie) (given : d.nearest f = code) (most : Nat) :
    ∃ dropped ≤ most,
      withoutDigits? f tie code dropped d = some (dropDigits f tie code d most) ∧
        ∀ more, dropped < more → more ≤ most → withoutDigits? f tie code more d = none := by
  induction most with
  | zero =>
      refine ⟨0, Nat.le_refl 0, withoutDigits_zero given, ?_⟩
      intro more greater less
      omega
  | succ most ih =>
      rw [dropDigits]
      split
      · rename_i shorter found
        refine ⟨most + 1, Nat.le_refl _, found, ?_⟩
        intro more greater less
        omega
      · rename_i none
        obtain ⟨dropped, le, found, last⟩ := ih
        refine ⟨dropped, Nat.le_succ_of_le le, found, ?_⟩
        intro more greater less
        rcases Nat.eq_or_lt_of_le less with rfl | less
        · exact none
        · exact last more greater (Nat.le_of_lt_succ less)

end Dropping

/-! ## The shortest decimal -/

/-- The decimal reads back as the code. No other that does has fewer digits or a coarser last
digit, and none with the same last digit is closer to the magnitude. -/
structure IsShortest (f : BinaryFormat) (code : Nat) (d : Decimal) : Prop where
  reads : d.nearest f = code
  fewest : ∀ t : Decimal, t.nearest f = code → d.digits.length ≤ t.digits.length
  coarsest : ∀ t : Decimal, t.nearest f = code → t.exponent ≤ d.exponent
  closest : ∀ t : Decimal, t.nearest f = code → t.exponent = d.exponent →
    |d.value - f.magnitude code| ≤ |t.value - f.magnitude code|

theorem coefficient_pos (positive : code ≠ 0) (reads : t.nearest f = code) :
    0 < t.coefficient := by
  by_contra none
  rw [nearest_eq_zero_of_coefficient f (by omega)] at reads
  exact positive reads.symm

theorem coefficient_lt_tenPow (d : Decimal) : d.coefficient < tenPow d.digits.length :=
  (Nat.length_toDigits_le_iff (by decide) Nat.length_toDigits_pos).mp (Nat.le_refl _)

/-- A decimal reads back only if it is at most half above the magnitude. -/
theorem value_le_of_nearest (positive : code ≠ 0) (finite : code < f.infinity)
    (reads : t.nearest f = code) : 2 * t.value ≤ 3 * f.magnitude code := by
  have gap : f.gap code ≤ f.magnitude code := BinaryFormat.gap_le_magnitude positive
  have above := le_middle_of_nearest finite reads
  rw [BinaryFormat.middle] at above
  linarith

theorem value_lt_zpow (d : Decimal) : d.value < 10 ^ (d.digits.length + d.exponent) := by
  have digits : (d.coefficient : ℚ) < 10 ^ d.digits.length := by
    rw [← cast_tenPow]
    exact Nat.cast_lt.mpr d.coefficient_lt_tenPow
  rw [zpow_add₀ (by norm_num), zpow_natCast, value]
  exact mul_lt_mul_of_pos_right digits (zpow_pos (by norm_num) _)

theorem zpow_le_value {e : Int} (positive : 0 < t.coefficient) (le : e ≤ t.exponent) :
    10 ^ e ≤ t.value := by
  have one : (1 : ℚ) ≤ t.coefficient := by exact_mod_cast positive
  have power : (10 : ℚ) ^ e ≤ 10 ^ t.exponent := zpow_le_zpow_right₀ (by norm_num) le
  have unit : (0 : ℚ) < 10 ^ t.exponent := zpow_pos (by norm_num) _
  exact power.trans (le_mul_of_one_le_left unit.le one)

/-- What reads back has its last digit no farther left than just before the exact magnitude's
digits. -/
theorem exponent_le_exact (positive : code ≠ 0) (finite : code < f.infinity)
    (reads : t.nearest f = code) :
    t.exponent ≤ (exact f code).exponent + (exact f code).digits.length := by
  by_contra coarse
  have magnitude := value_exact f code
  have digits := (exact f code).value_lt_zpow
  have half := value_le_of_nearest positive finite reads
  have large := zpow_le_value (coefficient_pos positive reads)
    (Int.add_one_le_of_lt (not_le.mp coarse))
  rw [zpow_add₀ (by norm_num), zpow_one, add_comm (exact f code).exponent] at large
  have unit : (0 : ℚ) < 10 ^ ((exact f code).digits.length + (exact f code).exponent) :=
    zpow_pos (by norm_num) _
  linarith

/-- A decimal whose last digit is the coarsest has the fewest digits: between it and one with fewer
there would be a power of ten. -/
theorem length_digits_le (coarsest : ∀ t : Decimal, t.nearest f = code → t.exponent ≤ d.exponent)
    (hd : d.nearest f = code) (ht : t.nearest f = code) : d.digits.length ≤ t.digits.length := by
  by_contra more
  have some_digit : 0 < t.digits.length := Nat.length_toDigits_pos
  obtain ⟨others, length⟩ :=
    Nat.exists_eq_succ_of_ne_zero (show d.digits.length ≠ 0 by omega)
  have last := coarsest t ht
  let power : Decimal := ⟨1, others + d.exponent⟩
  have value : power.value = 10 ^ (others + d.exponent) := by
    rw [Decimal.value, Nat.cast_one, one_mul]
  have above : t.value ≤ power.value := by
    rw [value]
    exact t.value_lt_zpow.le.trans (zpow_le_zpow_right₀ (by norm_num) (by omega))
  have leading : tenPow others ≤ d.coefficient := by
    by_contra less
    have short := (Nat.length_toDigits_le_iff (by decide) (show 0 < others by omega)).mpr
      (not_le.mp less)
    exact Nat.not_succ_le_self others (length ▸ short)
  have below : power.value ≤ d.value := by
    rw [value, zpow_add₀ (by norm_num), zpow_natCast, ← cast_tenPow]
    exact mul_le_mul_of_nonneg_right (Nat.cast_le.mpr leading) (zpow_nonneg (by norm_num) _)
  have coarser : others + d.exponent ≤ d.exponent :=
    coarsest power (nearest_eq_of_between above below ht hd)
  omega

theorem isShortest_shortest (tie : Tie) (positive : code ≠ 0) (finite : code < f.infinity) :
    (shortest f tie code).IsShortest f code := by
  have given := nearest_exact finite
  obtain ⟨dropped, le, found, last⟩ :=
    dropDigits_spec tie given (exact f code).digits.length
  have reads : (shortest f tie code).nearest f = code := nearest_shortest tie finite
  have exponent : (shortest f tie code).exponent = (exact f code).exponent + dropped :=
    exponent_withoutDigits found
  have coarsest (t : Decimal) (ht : t.nearest f = code) :
      t.exponent ≤ (shortest f tie code).exponent := by
    have most := exponent_le_exact positive finite ht
    by_contra coarse
    obtain ⟨more, distance⟩ := Int.eq_ofNat_of_zero_le
      (show 0 ≤ t.exponent - (exact f code).exponent by omega)
    have grid : t.exponent = (exact f code).exponent + more := by omega
    have none := withoutDigits_eq_none (last more (by omega) (by omega))
    rcases neighbour_reads grid ht given with ⟨below, _⟩ | ⟨above, _⟩
    · exact none.1 below
    · exact none.2 above
  refine ⟨reads, ?_, coarsest, ?_⟩
  · intro t ht
    exact length_digits_le coarsest reads ht
  · intro t ht same
    rw [← value_exact]
    exact closest_withoutDigits given found (same.trans exponent) ht

/-! ## No rival on a coarse grid -/

/-- The last digit is not a zero, which could be left out. -/
theorem IsShortest.last_ne_zero (h : d.IsShortest f code) : d.coefficient % 10 ≠ 0 := by
  intro zero
  have split : d.coefficient = d.coefficient / 10 * 10 := by omega
  have value : Decimal.value ⟨d.coefficient / 10, d.exponent + 1⟩ = d.value := by
    rw [Decimal.value, Decimal.value, split, Nat.mul_div_cancel _ (by decide),
      zpow_add₀ (by norm_num), zpow_one]
    push_cast
    ring
  have coarser : d.exponent + 1 ≤ d.exponent :=
    h.coarsest ⟨d.coefficient / 10, d.exponent + 1⟩ ((nearest_eq_of_value f value).trans h.reads)
  omega

/-- The gap before the code is less than twenty units of the last digit: within half of a greater
one there is a coarser decimal. -/
theorem IsShortest.gap_lt (h : d.IsShortest f (code + 1)) (finite : code + 1 < f.infinity) :
    f.gap code < 20 * 10 ^ d.exponent := by
  have half : 0 < f.gap code / 2 := half_pos (f.gap_pos code)
  obtain ⟨e, low, high⟩ := exists_mem_Ico_zpow half (show (1 : ℚ) < 10 by norm_num)
  have unit : (0 : ℚ) < 10 ^ e := zpow_pos (by norm_num) _
  have next := f.magnitude_succ code
  have quotient : 0 ≤ f.magnitude (code + 1) / 10 ^ e := div_nonneg (f.magnitude_nonneg _) unit.le
  let t : Decimal := ⟨⌊f.magnitude (code + 1) / 10 ^ e⌋₊, e⟩
  have below : t.value ≤ f.magnitude (code + 1) :=
    (le_div_iff₀ unit).mp (Nat.floor_le quotient)
  have above : f.magnitude (code + 1) < t.value + 10 ^ e := by
    have floor := (div_lt_iff₀ unit).mp (Nat.lt_floor_add_one (f.magnitude (code + 1) / 10 ^ e))
    rwa [add_mul, one_mul] at floor
  have reads : t.nearest f = code + 1 := by
    apply Nat.le_antisymm
    · exact nearest_le f (below.trans_lt (f.magnitude_lt_middle _))
    · apply lt_nearest (Nat.lt_of_succ_lt finite)
      rw [BinaryFormat.middle]
      linarith
  have coarse : (10 : ℚ) ^ e ≤ 10 ^ d.exponent :=
    zpow_le_zpow_right₀ (by norm_num) (h.coarsest t reads)
  rw [zpow_add₀ (by norm_num), zpow_one] at high
  linarith

/-- A decimal whose last digit is not a zero is its own only form with a last digit as coarse. -/
theorem eq_of_shift {more : Nat} (exponent : d.exponent = t.exponent + more)
    (coefficient : t.coefficient = d.coefficient * tenPow more) (last : t.coefficient % 10 ≠ 0) :
    d = t := by
  cases more with
  | zero =>
      have digits : d.coefficient = t.coefficient := (coefficient.trans (Nat.mul_one _)).symm
      have places : d.exponent = t.exponent := exponent.trans (Int.add_zero _)
      cases d
      cases t
      cases digits
      cases places
      rfl
  | succ more =>
      have power : tenPow (more + 1) = tenPow more * 10 := rfl
      rw [power, ← Nat.mul_assoc] at coefficient
      exact absurd (coefficient ▸ Nat.mul_mod_left _ 10) last

/-- A decimal that reads back and has a last digit worth more than the gap is the shortest, if that
digit is not a zero. -/
theorem IsShortest.eq_of_nearest (h : d.IsShortest f code) (finite : code < f.infinity)
    (reads : t.nearest f = code) (coarse : f.gap code < 10 ^ t.exponent)
    (last : t.coefficient % 10 ≠ 0) : d = t := by
  have unit : (0 : ℚ) < 10 ^ t.exponent := zpow_pos (by norm_num) _
  obtain ⟨more, grid⟩ := Int.eq_ofNat_of_zero_le (sub_nonneg.mpr (h.coarsest t reads))
  have exponent : d.exponent = t.exponent + more := by omega
  have value : d.value = (d.coefficient * tenPow more : ℕ) * 10 ^ t.exponent := by
    rw [Decimal.value, exponent, zpow_add₀ (by norm_num), zpow_natCast, Nat.cast_mul, cast_tenPow]
    ring
  have near : |((d.coefficient * tenPow more : ℕ) : ℚ) - t.coefficient| * 10 ^ t.exponent <
      1 * 10 ^ t.exponent := by
    have own := abs_le.mp (abs_sub_magnitude_le finite h.reads)
    have other := abs_le.mp (abs_sub_magnitude_le finite reads)
    rw [← abs_of_pos unit, ← abs_mul, abs_of_pos unit, sub_mul, ← value, one_mul]
    change |d.value - t.value| < _
    rw [abs_lt]
    constructor <;> linarith
  have less := lt_of_mul_lt_mul_right near unit.le
  have same : ((d.coefficient * tenPow more : ℕ) : ℤ) - t.coefficient = 0 :=
    Int.abs_lt_one_iff.mp (by exact_mod_cast less)
  have coefficient : t.coefficient = d.coefficient * tenPow more := by omega
  exact eq_of_shift exponent coefficient last

end Decimal

/-! ## Displayed numbers -/

namespace BinaryFloat

variable {f : BinaryFormat} {x : BinaryFloat f}

theorem display_of_isNaN (none : x.IsNaN) : x.display = "NaN" := by
  rw [display, if_pos none]
  rfl

theorem display_of_infinite (number : ¬ x.IsNaN) (unbounded : ¬ x.IsFinite) :
    x.display = String.ofList (x.signText ++ "inf".toList) := by
  rw [display, if_neg number, if_neg unbounded]

theorem display_of_zero (finite : x.IsFinite) (zero : x.code = 0) :
    x.display = String.ofList (x.signText ++ ['0']) := by
  rw [display, if_neg finite.not_isNaN, if_pos finite, if_pos zero]

theorem display_of_ne_zero (finite : x.IsFinite) (positive : x.code ≠ 0) :
    x.display = String.ofList (x.signText ++ (Decimal.shortest f .up x.code).positional) := by
  rw [display, if_neg finite.not_isNaN, if_pos finite, if_neg positive]

end BinaryFloat

end SqlAssembly.Numeric
