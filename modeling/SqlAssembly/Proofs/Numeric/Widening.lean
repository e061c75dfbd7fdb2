import SqlAssembly.Proofs.Numeric.NearMiddles
import SqlAssembly.Proofs.Numeric.Shortest

/-!
# Singles as doubles

A single is widened through its shortest decimal, so on the way to a double and back it is
rounded twice. The second rounding goes wrong only if the first has moved the decimal onto a
middle between two singles, and it has only if the decimal was near to one.
-/

namespace SqlAssembly.Numeric

/-! ## Decimals without their last digits -/

namespace Decimal

theorem value_below_add (d : Decimal) (dropped : Nat) :
    (d.below dropped).value + (d.coefficient % tenPow dropped : ℕ) * 10 ^ d.exponent = d.value := by
  have digits : (d.coefficient : ℚ) =
      (d.coefficient / tenPow dropped : ℕ) * tenPow dropped +
        (d.coefficient % tenPow dropped : ℕ) := by
    exact_mod_cast (Nat.div_add_mod' d.coefficient (tenPow dropped)).symm
  have power : (10 : ℚ) ^ (d.exponent + dropped) = 10 ^ d.exponent * tenPow dropped := by
    rw [zpow_add₀ (by norm_num), zpow_natCast, cast_tenPow]
  rw [value, value, below, power, digits]
  ring

theorem value_above (d : Decimal) (dropped : Nat) :
    (d.above dropped).value = (d.below dropped).value + 10 ^ (d.exponent + dropped) := by
  rw [value, value, above, below]
  push_cast
  ring

/-- The part cut off is at most one unit of the last digit that is left. -/
theorem rest_bounds (d : Decimal) (dropped : Nat) :
    0 ≤ (d.coefficient % tenPow dropped : ℕ) * (10 : ℚ) ^ d.exponent ∧
      (d.coefficient % tenPow dropped : ℕ) * (10 : ℚ) ^ d.exponent ≤
        10 ^ (d.exponent + dropped) := by
  have unit : (0 : ℚ) ≤ 10 ^ d.exponent := zpow_nonneg (by norm_num) _
  refine ⟨mul_nonneg (Nat.cast_nonneg _) unit, ?_⟩
  rw [zpow_add₀ (by norm_num), zpow_natCast, mul_comm, ← cast_tenPow]
  apply mul_le_mul_of_nonneg_left _ unit
  exact Nat.cast_le.mpr (Nat.mod_lt _ (tenPow_pos dropped)).le

/-- The decimal is at most one unit of its own last digit away from a number. -/
def WithinDigit (d : Decimal) (x : ℚ) : Prop := |d.value - x| ≤ 10 ^ d.exponent

theorem withinDigit_self (d : Decimal) : d.WithinDigit d.value := by
  rw [WithinDigit, sub_self, abs_zero]
  exact zpow_nonneg (by norm_num) _

theorem withinDigit_below (d : Decimal) (dropped : Nat) :
    (d.below dropped).WithinDigit d.value := by
  have split := d.value_below_add dropped
  obtain ⟨nonneg, rest⟩ := d.rest_bounds dropped
  have unit : (d.below dropped).exponent = d.exponent + dropped := rfl
  rw [WithinDigit, unit, abs_le]
  constructor <;> linarith

theorem withinDigit_above (d : Decimal) (dropped : Nat) :
    (d.above dropped).WithinDigit d.value := by
  have split := d.value_below_add dropped
  have next := d.value_above dropped
  obtain ⟨nonneg, rest⟩ := d.rest_bounds dropped
  have unit : (d.above dropped).exponent = d.exponent + dropped := rfl
  rw [WithinDigit, unit, abs_le]
  constructor <;> linarith

variable {f : BinaryFormat} {tie : Tie} {code : Nat}

theorem withinDigit_withoutDigits {dropped : Nat} {d shorter : Decimal}
    (h : withoutDigits? f tie code dropped d = some shorter) : shorter.WithinDigit d.value := by
  rw [withoutDigits?] at h
  split at h
  · split at h
    · split at h
      · cases h
        exact d.withinDigit_above dropped
      · cases h
        exact d.withinDigit_below dropped
    · cases h
      exact d.withinDigit_below dropped
  · split at h
    · cases h
      exact d.withinDigit_above dropped
    · contradiction

theorem withinDigit_dropDigits (d : Decimal) (dropped : Nat) :
    (dropDigits f tie code d dropped).WithinDigit d.value := by
  induction dropped with
  | zero => exact d.withinDigit_self
  | succ dropped ih =>
      rw [dropDigits]
      split
      · rename_i shorter found
        exact withinDigit_withoutDigits found
      · exact ih

theorem value_exact (f : BinaryFormat) (code : Nat) : (exact f code).value = f.magnitude code := by
  have denominator : ((exact f code).denominator : ℚ) ≠ 0 :=
    Nat.cast_ne_zero.mpr (denominator_pos _).ne'
  rw [value_eq_div, BinaryFormat.magnitude,
    div_eq_div_iff denominator (cast_twoPow_pos _).ne']
  exact_mod_cast numerator_exact code

theorem withinDigit_shortest (f : BinaryFormat) (tie : Tie) (code : Nat) :
    (shortest f tie code).WithinDigit (f.magnitude code) := by
  rw [← value_exact]
  exact withinDigit_dropDigits _ _

end Decimal

/-! ## Middles of singles as doubles -/

namespace BinaryFormat

/-- A middle between singles is the magnitude of a double, and its gap is the gap of the single
without the bits that a double has more. -/
theorem exists_double_middle {code : Nat} (finite : code < single.infinity) :
    ∃ z < double.infinity, double.magnitude z = single.middle code ∧
      double.gap z ≤ single.gap code / twoPow 29 := by
  have binade := binade_single_lt finite
  have significand : single.significand code < twoPow 24 := significand_lt code
  have bits : (2 * single.significand code + 1) * twoPow 28 < twoPow 53 := by
    have less : 2 * single.significand code + 1 < twoPow 25 := by
      have double : twoPow 25 = twoPow 24 * 2 := rfl
      omega
    exact Nat.mul_lt_mul_of_pos_right less (twoPow_pos 28)
  obtain ⟨z, bound, low, units⟩ := exists_code (f := double) bits (single.binade code + 896)
  have power : twoPow (single.binade code + 896) = twoPow (single.binade code) * twoPow 896 :=
    twoPow_add _ _
  have scales : twoPow double.scale = twoPow 896 * (twoPow 28 * 2) * twoPow single.scale := by
    rw [← twoPow_succ, ← twoPow_add, ← twoPow_add]
    rfl
  have bits_pos := cast_twoPow_pos 28
  have shift_pos := cast_twoPow_pos 896
  have scale_pos := cast_twoPow_pos single.scale
  refine ⟨z, ?_, ?_, ?_⟩
  · have fraction : double.fractionBits = 52 := rfl
    have infinity : double.infinity = 2047 * twoPow 52 := rfl
    have blocks : (single.binade code + 896) * twoPow 52 ≤ 1149 * twoPow 52 :=
      Nat.mul_le_mul_right _ (by omega)
    have carry : twoPow 53 = twoPow 52 * 2 := rfl
    rw [fraction] at bound
    omega
  · rw [middle_eq_mul, gap, magnitude, units, power, scales]
    push_cast
    generalize (twoPow 28 : ℚ) = bits at bits_pos ⊢
    generalize (twoPow 896 : ℚ) = shift at shift_pos ⊢
    field_simp
  · have wider : double.gap z ≤ twoPow (single.binade code + 896) / twoPow double.scale :=
      div_le_div_of_nonneg_right (Nat.cast_le.mpr (twoPow_le low)) (cast_twoPow_pos _).le
    refine wider.trans (le_of_eq ?_)
    rw [gap, power, scales, twoPow_succ 28]
    push_cast
    generalize (twoPow 28 : ℚ) = bits at bits_pos ⊢
    generalize (twoPow 896 : ℚ) = shift at shift_pos ⊢
    field_simp

end BinaryFormat

/-! ## Rounding twice -/

namespace Decimal

open BinaryFormat

variable {d : Decimal} {code : Nat}

theorem nearest_le (f : BinaryFormat) (below : d.value < f.middle code) : d.nearest f ≤ code := by
  rw [value_eq_div] at below
  exact BinaryFormat.nearest_le d.denominator_pos below

theorem lt_nearest {f : BinaryFormat} (finite : code < f.infinity)
    (above : f.middle code < d.value) : code < d.nearest f := by
  rw [value_eq_div] at above
  exact BinaryFormat.lt_nearest d.denominator_pos finite above

theorem le_middle_of_nearest {f : BinaryFormat} (finite : code < f.infinity)
    (reads : d.nearest f = code) : d.value ≤ f.middle code := by
  by_contra above
  have more := lt_nearest finite (not_le.mp above)
  omega

theorem middle_le_of_nearest {f : BinaryFormat} (reads : d.nearest f = code + 1) :
    f.middle code ≤ d.value := by
  by_contra below
  have less := nearest_le f (not_le.mp below)
  omega

theorem abs_sub_magnitude_le {f : BinaryFormat} (finite : code < f.infinity)
    (reads : d.nearest f = code) : |d.value - f.magnitude code| ≤ f.gap code / 2 := by
  rw [value_eq_div, ← reads]
  rw [← reads] at finite
  exact abs_sub_magnitude_nearest_le d.denominator_pos finite

/-- A decimal that is read as a double on a middle between singles was that middle or near to
it. -/
theorem near_middle_of_nearest_double {z : Nat} (finite : code < single.infinity)
    (digit : d.WithinDigit (single.magnitude code) ∨ d.WithinDigit (single.magnitude (code + 1)))
    (finite_double : z < double.infinity) (on_middle : double.magnitude z = single.middle code)
    (narrow : double.gap z ≤ single.gap code / twoPow 29) (read : d.nearest double = z) :
    d.value = single.middle code ∨ code ∈ nearMiddles := by
  have error := abs_sub_magnitude_le finite_double read
  rw [on_middle] at error
  have near : |d.value - single.middle code| ≤ single.gap code / twoPow 30 := by
    have half : single.gap code / twoPow 30 = single.gap code / twoPow 29 / 2 := by
      rw [twoPow_succ 29, Nat.cast_mul, Nat.cast_two, div_div]
    rw [half]
    linarith
  have coarse : single.gap code / 2 ≤ |d.value - single.middle code| + 10 ^ d.exponent := by
    have below := neg_abs_le (d.value - single.middle code)
    have above := le_abs_self (d.value - single.middle code)
    have middle : single.middle code = single.magnitude code + single.gap code / 2 := rfl
    have next := single.magnitude_succ code
    rcases digit with digit | digit
    · have bounds := abs_le.mp digit
      linarith
    · have bounds := abs_le.mp digit
      linarith
  by_cases on : d.value = single.middle code
  · exact .inl on
  · exact .inr (mem_nearMiddles finite near coarse on)

/-- Reading through a double that is the decimal changes nothing. -/
theorem recode_of_magnitude_eq {f g : BinaryFormat} {y : Nat} (same : g.magnitude y = d.value) :
    g.recode f y = d.nearest f := by
  rw [value_eq_div] at same
  exact nearest_congr_div (twoPow_pos _) d.denominator_pos same

/-- A decimal is read as a single, directly or through a double, with the same result, if it is at
most one unit of its last digit away from that single and near to none of the listed middles. The
double lies below the middle above the single, or on it. -/
theorem recode_nearest_double (finite : code + 1 < single.infinity)
    (rounded : d.nearest single = code + 1) (digit : d.WithinDigit (single.magnitude (code + 1))) :
    (code ∉ nearMiddles → code + 1 ∉ nearMiddles →
      double.recode single (d.nearest double) = code + 1) ∧
    d.nearest double < double.infinity ∧
      double.magnitude (d.nearest double) ≤ single.middle (code + 1) := by
  obtain ⟨low, low_finite, low_middle, low_narrow⟩ :=
    exists_double_middle (show code < single.infinity by omega)
  obtain ⟨high, high_finite, high_middle, high_narrow⟩ := exists_double_middle finite
  have above : single.middle code ≤ d.value := middle_le_of_nearest rounded
  have below : d.value ≤ single.middle (code + 1) := le_middle_of_nearest finite rounded
  have at_most : d.nearest double ≤ high := by
    apply nearest_le double
    rw [← high_middle] at below
    exact below.trans_lt (magnitude_lt_middle high)
  have at_least : low ≤ d.nearest double := by
    cases low with
    | zero => exact Nat.zero_le _
    | succ c =>
        apply lt_nearest (by omega)
        rw [← low_middle] at above
        exact (middle_lt_magnitude_succ c).trans_le above
  refine ⟨fun other_low other_high => ?_, by omega, ?_⟩
  · -- Off the middles the double is on the same side of each as the decimal.
    rcases Nat.eq_or_lt_of_le at_most with on_high | less
    · have near := near_middle_of_nearest_double finite (.inl digit) high_finite high_middle
        high_narrow on_high
      have same := near.resolve_right other_high
      rw [← high_middle, ← on_high] at same
      rw [recode_of_magnitude_eq same.symm, rounded]
    · rcases Nat.eq_or_lt_of_le at_least with on_low | greater
      · have near := near_middle_of_nearest_double (Nat.lt_of_succ_lt finite) (.inr digit)
          low_finite low_middle low_narrow on_low.symm
        have same := near.resolve_right other_low
        rw [← low_middle, on_low] at same
        rw [recode_of_magnitude_eq same.symm, rounded]
      · have less_high : double.magnitude (d.nearest double) < single.middle (code + 1) := by
          rw [← high_middle]
          exact magnitude_strictMono less
        have greater_low : single.middle code < double.magnitude (d.nearest double) := by
          rw [← low_middle]
          exact magnitude_strictMono greater
        apply Nat.le_antisymm
        · exact BinaryFormat.nearest_le (twoPow_pos _) less_high
        · exact BinaryFormat.lt_nearest (twoPow_pos _) (Nat.lt_of_succ_lt finite) greater_low
  · rw [← high_middle]
    exact magnitude_strictMono.monotone at_most

end Decimal

end SqlAssembly.Numeric
