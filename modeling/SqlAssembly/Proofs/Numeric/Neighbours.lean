import SqlAssembly.Proofs.Numeric.Widening

/-!
# Decimals around a decimal

Rounding keeps the order, so what lies between two decimals that are read as one code is read as it
too (`Decimal.nearest_eq_of_between`). Of the decimals with a given last place the two that enclose
a decimal are nearest to it on their sides; if anything on that grid is read as the decimal is, then
so is one of the two, and it is no farther away (`Decimal.neighbour_reads`).
-/

namespace SqlAssembly.Numeric

/-! ## Rounding keeps the order -/

namespace BinaryFormat

variable {f : BinaryFormat}

theorem middle_mono {c d : Nat} (le : c ≤ d) : f.middle c ≤ f.middle d := by
  have magnitude : f.magnitude c ≤ f.magnitude d := magnitude_strictMono.monotone le
  have gap : f.gap c ≤ f.gap d := gap_mono le
  rw [middle, middle]
  linarith

theorem nearest_mono {num den num' den' : Nat} (positive : 0 < den) (positive' : 0 < den')
    (le : (num : ℚ) / den ≤ num' / den') : f.nearest num den ≤ f.nearest num' den' := by
  by_contra greater
  have less := not_le.mp greater
  obtain ⟨before, rounded⟩ := Nat.exists_eq_succ_of_ne_zero (Nat.ne_zero_of_lt less)
  have finite : f.nearest num' den' < f.infinity :=
    Nat.lt_of_lt_of_le less (f.nearest_le_infinity _ _)
  have above := middle_le_of_nearest positive rounded
  have below := le_middle_nearest positive' finite
  have middles : f.middle (f.nearest num' den') ≤ f.middle before := middle_mono (by omega)
  -- Both quotients lie on one middle, so they are the same.
  have same : (num : ℚ) / den = num' / den' := by linarith
  exact greater (Nat.le_of_eq (nearest_congr_div positive positive' same))

theorem gap_le_magnitude {code : Nat} (positive : code ≠ 0) : f.gap code ≤ f.magnitude code := by
  have parts := binade_mul_add_significand (f := f) code
  have significand : f.significand code ≠ 0 := by
    intro zero
    by_cases lowest : f.binade code = 0
    · rw [zero, lowest] at parts
      omega
    · have bits := le_significand lowest
      have power := twoPow_pos f.fractionBits
      omega
  have units : twoPow (f.binade code) ≤ f.units code :=
    Nat.le_mul_of_pos_left _ (Nat.pos_of_ne_zero significand)
  exact div_le_div_of_nonneg_right (Nat.cast_le.mpr units) (cast_twoPow_pos _).le

/-- From one code to the next the gap is at most doubled. -/
theorem gap_succ_le (code : Nat) : f.gap (code + 1) ≤ 2 * f.gap code := by
  have blocks : (code + 1) / twoPow f.fractionBits ≤ code / twoPow f.fractionBits + 1 := by
    rw [← Nat.add_div_right _ (twoPow_pos _)]
    exact Nat.div_le_div_right (Nat.add_le_add_left (twoPow_pos _) _)
  have binade : f.binade (code + 1) ≤ f.binade code + 1 := by
    rw [binade, binade]
    omega
  have power : (twoPow (f.binade (code + 1)) : ℚ) ≤ 2 * twoPow (f.binade code) := by
    have le := twoPow_le binade
    rw [twoPow_succ, Nat.mul_comm] at le
    exact_mod_cast le
  rw [gap, gap, ← mul_div_assoc]
  exact div_le_div_of_nonneg_right power (cast_twoPow_pos _).le

end BinaryFormat

namespace Decimal

variable {f : BinaryFormat} {tie : Tie} {code : Nat} {d t : Decimal}

theorem nearest_mono (f : BinaryFormat) (le : d.value ≤ t.value) : d.nearest f ≤ t.nearest f := by
  rw [value_eq_div, value_eq_div] at le
  exact BinaryFormat.nearest_mono d.denominator_pos t.denominator_pos le

theorem nearest_eq_of_value (f : BinaryFormat) (same : d.value = t.value) :
    d.nearest f = t.nearest f :=
  Nat.le_antisymm (nearest_mono f same.le) (nearest_mono f same.ge)

/-- What lies between two decimals that read as one code reads as it too. -/
theorem nearest_eq_of_between {low high : Decimal} (below : low.value ≤ d.value)
    (above : d.value ≤ high.value) (hlow : low.nearest f = code) (hhigh : high.nearest f = code) :
    d.nearest f = code := by
  apply Nat.le_antisymm
  · rw [← hhigh]
    exact nearest_mono f above
  · rw [← hlow]
    exact nearest_mono f below

/-! ## Neighbours on a grid -/

section Grid

variable {dropped : Nat}

theorem value_le_value {c c' : Nat} {e : Int} (le : c ≤ c') :
    (⟨c, e⟩ : Decimal).value ≤ (⟨c', e⟩ : Decimal).value :=
  mul_le_mul_of_nonneg_right (Nat.cast_le.mpr le) (zpow_nonneg (by norm_num) _)

theorem coefficient_mul_le (grid : t.exponent = d.exponent + dropped) (le : t.value ≤ d.value) :
    t.coefficient * tenPow dropped ≤ d.coefficient := by
  have unit : (0 : ℚ) < 10 ^ d.exponent := zpow_pos (by norm_num) _
  rw [value, value, grid, zpow_add₀ (by norm_num), zpow_natCast, ← cast_tenPow,
    mul_comm (10 ^ d.exponent), ← mul_assoc] at le
  exact_mod_cast le_of_mul_le_mul_right le unit

theorem coefficient_lt_mul (grid : t.exponent = d.exponent + dropped) (lt : d.value < t.value) :
    d.coefficient < t.coefficient * tenPow dropped := by
  have unit : (0 : ℚ) ≤ 10 ^ d.exponent := zpow_nonneg (by norm_num) _
  rw [value, value, grid, zpow_add₀ (by norm_num), zpow_natCast, ← cast_tenPow,
    mul_comm (10 ^ d.exponent), ← mul_assoc] at lt
  exact_mod_cast lt_of_mul_lt_mul_right lt unit

theorem value_below_le (d : Decimal) (dropped : Nat) : (d.below dropped).value ≤ d.value := by
  have split := d.value_below_add dropped
  have rest := (d.rest_bounds dropped).1
  linarith

theorem value_le_above (d : Decimal) (dropped : Nat) : d.value ≤ (d.above dropped).value := by
  have split := d.value_below_add dropped
  have next := d.value_above dropped
  have rest := (d.rest_bounds dropped).2
  linarith

/-- The decimal below is the last of its grid that is not beyond. -/
theorem value_le_below (grid : t.exponent = d.exponent + dropped) (le : t.value ≤ d.value) :
    t.value ≤ (d.below dropped).value := by
  have coefficient := (Nat.le_div_iff_mul_le (tenPow_pos dropped)).mpr (coefficient_mul_le grid le)
  obtain ⟨c, e⟩ := t
  cases grid
  exact value_le_value coefficient

/-- The decimal above is the first of its grid that is beyond. -/
theorem above_le_value (grid : t.exponent = d.exponent + dropped) (lt : d.value < t.value) :
    (d.above dropped).value ≤ t.value := by
  have coefficient := (Nat.div_lt_iff_lt_mul (tenPow_pos dropped)).mpr (coefficient_lt_mul grid lt)
  obtain ⟨c, e⟩ := t
  cases grid
  exact value_le_value coefficient

/-- If anything on the grid reads back, then so does one of the neighbours, and a neighbour on the
same side that is no farther away. -/
theorem neighbour_reads (grid : t.exponent = d.exponent + dropped) (ht : t.nearest f = code)
    (hd : d.nearest f = code) :
    (d.below dropped).nearest f = code ∧ |(d.below dropped).value - d.value| ≤ |t.value - d.value| ∨
      (d.above dropped).nearest f = code ∧
        |(d.above dropped).value - d.value| ≤ |t.value - d.value| := by
  have low := d.value_below_le dropped
  have high := d.value_le_above dropped
  rcases le_or_gt t.value d.value with le | lt
  · have beside := value_le_below grid le
    refine .inl ⟨nearest_eq_of_between beside low ht hd, ?_⟩
    rw [abs_of_nonpos (by linarith), abs_of_nonpos (by linarith)]
    linarith
  · have beside := above_le_value grid lt
    refine .inr ⟨nearest_eq_of_between high beside hd ht, ?_⟩
    rw [abs_of_nonneg (by linarith), abs_of_nonneg (by linarith)]
    linarith

/-- Half of the cut off digits decides which neighbour is nearer. -/
theorem nearer_neighbour (d : Decimal) (tie : Tie) (dropped : Nat) :
    (d.isNearerAbove tie dropped = true →
        |(d.above dropped).value - d.value| ≤ |(d.below dropped).value - d.value|) ∧
      (d.isNearerAbove tie dropped = false →
        |(d.below dropped).value - d.value| ≤ |(d.above dropped).value - d.value|) := by
  have split := d.value_below_add dropped
  have next := d.value_above dropped
  obtain ⟨low, high⟩ := d.rest_bounds dropped
  have unit : (0 : ℚ) ≤ 10 ^ d.exponent := zpow_nonneg (by norm_num) _
  have step : (10 : ℚ) ^ (d.exponent + dropped) = tenPow dropped * 10 ^ d.exponent := by
    rw [zpow_add₀ (by norm_num), zpow_natCast, cast_tenPow, mul_comm]
  have below : |(d.below dropped).value - d.value| =
      (d.coefficient % tenPow dropped : ℕ) * 10 ^ d.exponent := by
    rw [abs_of_nonpos (by linarith)]
    linarith
  have above : |(d.above dropped).value - d.value| =
      tenPow dropped * 10 ^ d.exponent -
        (d.coefficient % tenPow dropped : ℕ) * 10 ^ d.exponent := by
    rw [abs_of_nonneg (by linarith)]
    linarith
  have half {m n : Nat} (le : m ≤ n) : (m : ℚ) * 10 ^ d.exponent ≤ n * 10 ^ d.exponent :=
    mul_le_mul_of_nonneg_right (Nat.cast_le.mpr le) unit
  rw [below, above]
  unfold isNearerAbove
  constructor
  · intro up
    have most : tenPow dropped ≤ 2 * (d.coefficient % tenPow dropped) := by
      by_contra less
      rw [if_pos (by omega)] at up
      cases up
    have scaled := half most
    push_cast at scaled
    linarith
  · intro down
    have least : 2 * (d.coefficient % tenPow dropped) ≤ tenPow dropped := by
      by_contra more
      rw [if_neg (by omega), if_pos (by omega)] at down
      cases down
    have scaled := half least
    push_cast at scaled
    linarith

end Grid

end Decimal

end SqlAssembly.Numeric
