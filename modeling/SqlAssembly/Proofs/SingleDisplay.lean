import SqlAssembly.Proofs.Numeric.ShortestDigits
import SqlAssembly.Proofs.SingleBinding

/-!
# Singles displayed as singles

A single is held as a double and still displayed with its own few digits
(`Scalar.display_single`). Doubles are so dense around it that a decimal as coarse as the single's
shortest one has no rival among the decimals that are read as the same double.
-/

namespace SqlAssembly

open Numeric BinaryFormat

namespace Numeric.BinaryFormat

variable {code : Nat}

/-- Around a widened single the gap between doubles is less than one unit of the last digit. -/
theorem gap_widened_lt (finite : code + 1 < single.infinity) :
    double.gap (widened (code + 1)) < 10 ^ (Decimal.shortest single .up (code + 1)).exponent := by
  obtain ⟨z, -, on_middle, narrow⟩ := exists_double_middle finite
  have below : widened (code + 1) ≤ z := by
    apply magnitude_strictMono.le_iff_le.mp
    rw [on_middle]
    exact (widened_spec finite).2.2
  have wide : double.gap (widened (code + 1)) ≤ double.gap z := gap_mono below
  have own : double.gap (widened (code + 1)) * twoPow 29 ≤ single.gap (code + 1) :=
    (le_div_iff₀ (cast_twoPow_pos 29)).mp (wide.trans narrow)
  have next := single.gap_succ_le code
  have digit := (Decimal.isShortest_shortest .up (Nat.succ_ne_zero code) finite).gap_lt finite
  -- Forty units of the last digit make up for the 29 bits that a double has more.
  have bits : (40 : ℚ) ≤ twoPow 29 := by
    rw [cast_twoPow]
    norm_num
  have unit : (0 : ℚ) ≤ 10 ^ (Decimal.shortest single .up (code + 1)).exponent :=
    zpow_nonneg (by norm_num) _
  have scaled := mul_le_mul_of_nonneg_right bits unit
  refine lt_of_mul_lt_mul_right ?_ (cast_twoPow_pos 29).le
  linarith

theorem widened_lt_infinity (positive : code ≠ 0) (finite : code < single.infinity) :
    widened code < double.infinity := by
  obtain ⟨before, rfl⟩ := Nat.exists_eq_succ_of_ne_zero positive
  exact (widened_spec finite).2.1

/-- No single but zero is so small that it would be read as zero. -/
theorem widened_ne_zero (positive : code ≠ 0) (finite : code < single.infinity) :
    widened code ≠ 0 := by
  intro zero
  have error := Decimal.abs_sub_magnitude_le (widened_lt_infinity positive finite) rfl
  obtain ⟨before, rfl⟩ := Nat.exists_eq_succ_of_ne_zero positive
  have narrow := gap_widened_lt finite
  have digit :=
    Decimal.zpow_le_value (Decimal.coefficient_shortest_pos .up finite positive) (le_refl _)
  rw [zero] at narrow
  rw [zero, magnitude_zero, sub_zero] at error
  have above := le_abs_self (Decimal.shortest single .up (before + 1)).value
  have gap := double.gap_pos 0
  linarith

/-- The double that a single is widened to has the single's shortest decimal. -/
theorem shortest_widened (positive : code ≠ 0) (finite : code < single.infinity) :
    Decimal.shortest double .up (widened code) = Decimal.shortest single .up code := by
  have finite_double := widened_lt_infinity positive finite
  have own := Decimal.isShortest_shortest .up positive finite
  have other := Decimal.isShortest_shortest .up (widened_ne_zero positive finite) finite_double
  obtain ⟨before, rfl⟩ := Nat.exists_eq_succ_of_ne_zero positive
  exact other.eq_of_nearest finite_double rfl (gap_widened_lt finite) own.last_ne_zero

end Numeric.BinaryFormat

namespace Numeric.BinaryFloat

/-- Widening changes nothing that is displayed. -/
theorem display_widen (x : Single) : (x.widen .double).display = x.display := by
  by_cases none : x.IsNaN
  · rw [display_of_isNaN none, widen, if_pos none]
    exact display_of_isNaN (by decide)
  by_cases finite : x.IsFinite
  · by_cases zero : x.code = 0
    · have bounded : 0 < double.infinity := by decide
      rw [display_of_zero finite zero, widen_zero zero]
      exact display_of_zero bounded rfl
    · rw [display_of_ne_zero finite zero, widen_of_ne_zero finite zero,
        ← shortest_widened zero finite]
      exact display_of_ne_zero (widened_lt_infinity zero finite) (widened_ne_zero zero finite)
  · rw [display_of_infinite none finite, widen, if_neg none, if_neg finite]
    exact display_of_infinite (Nat.lt_irrefl _) (Nat.lt_irrefl _)

end Numeric.BinaryFloat

namespace Scalar

/-- A scalar made of a single is displayed as the single is, zeros with their signs, infinities and
what is no number included, and if the single is finite this is the literal as well. The text is
the shortest decimal in plain layout: the shortest that is read as the single, and at the same time
the shortest that is read as the double. -/
theorem display_single (x : Single) :
    (toScalar x).display = x.display ∧
    (x.IsFinite → (toScalar x).literal = x.display) ∧
    (x.IsFinite → x.code ≠ 0 →
      ∃ d : Decimal, d.IsShortest .single x.code ∧ d.IsShortest .double (x.widen .double).code ∧
        x.display = String.ofList (x.signText ++ d.positional)) := by
  have same : (toScalar x).display = x.display := x.display_widen
  refine ⟨same, fun _ => same, ?_⟩
  intro finite positive
  refine ⟨Decimal.shortest single .up x.code, ?_, ?_,
    BinaryFloat.display_of_ne_zero finite positive⟩
  · exact Decimal.isShortest_shortest .up positive finite
  · rw [BinaryFloat.widen_of_ne_zero finite positive, ← shortest_widened positive finite]
    exact Decimal.isShortest_shortest .up (widened_ne_zero positive finite)
      (widened_lt_infinity positive finite)

/-- Minus one tenth, which is neither a single nor a double. -/
theorem display_single_tenth :
    tenth.IsFinite ∧ tenth.code ≠ 0 ∧ (toScalar tenth).display = "-0.1" ∧
      (toScalar tenth).literal = "-0.1" ∧
      ∃ d : Decimal, d.IsShortest .single tenth.code ∧
        d.IsShortest .double (tenth.widen .double).code := by
  have finite : tenth.IsFinite := by decide
  have positive : tenth.code ≠ 0 := by decide
  have text : tenth.display = "-0.1" := by decide +kernel
  obtain ⟨display, literal, shortest⟩ := display_single tenth
  obtain ⟨d, own, other, -⟩ := shortest finite positive
  exact ⟨finite, positive, display.trans text, (literal finite).trans text, d, own, other⟩

end Scalar

end SqlAssembly
