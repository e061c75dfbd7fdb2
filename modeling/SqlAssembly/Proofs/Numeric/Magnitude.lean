import Mathlib.Algebra.Order.Field.Basic
import Mathlib.Algebra.Order.Field.Rat
import Mathlib.Tactic.FieldSimp
import Mathlib.Tactic.Linarith
import Mathlib.Tactic.Positivity
import Mathlib.Tactic.Ring
import SqlAssembly.Proofs.Numeric.Nearest

/-!
# Magnitudes

The magnitudes of a format's codes as rational numbers. They ascend with the codes, the gap to
the next one is a power of two that never shrinks, and rounding is decided at the middles of the
gaps: what lies below the middle above a code is rounded to the code at most
(`BinaryFormat.nearest_le`), what lies above it to the next code at least
(`BinaryFormat.lt_nearest`).
-/

namespace SqlAssembly.Numeric

@[simp] theorem cast_twoPow (n : Nat) : (twoPow n : ℚ) = 2 ^ n := Nat.cast_pow 2 n

theorem cast_twoPow_pos (n : Nat) : (0 : ℚ) < twoPow n := Nat.cast_pos.mpr (twoPow_pos n)

@[simp] theorem cast_tenPow (n : Nat) : (tenPow n : ℚ) = 10 ^ n := Nat.cast_pow 10 n

/-- What lies below the middle above a number is not rounded beyond it. -/
theorem roundDiv_le {num den q : Nat} (below : 2 * num < (2 * q + 1) * den) :
    roundDiv num den ≤ q := by
  have positive : 0 < den := by
    by_contra zero
    simp [show den = 0 by omega] at below
  have split := Nat.div_add_mod num den
  by_cases less : num / den < q
  · have rounded := roundDiv_le_div_succ num den
    omega
  · have scaled : den * q ≤ den * (num / den) := Nat.mul_le_mul_left den (by omega)
    have rest : 2 * (num % den) < den := by
      rw [Nat.add_mul, Nat.mul_assoc, Nat.mul_comm q] at below
      omega
    have floor : num / den < q + 1 := by
      rw [Nat.div_lt_iff_lt_mul positive]
      rw [Nat.add_mul, Nat.mul_assoc] at below
      rw [Nat.add_mul]
      omega
    rw [roundDiv, if_pos rest]
    omega

theorem lt_roundDiv {num den q : Nat} (positive : 0 < den) (above : (2 * q + 1) * den < 2 * num) :
    q < roundDiv num den := by
  have split := Nat.div_add_mod num den
  have rounded := div_le_roundDiv num den
  have floor : q ≤ num / den := by
    rw [Nat.le_div_iff_mul_le positive]
    rw [Nat.add_mul, Nat.mul_assoc] at above
    omega
  by_cases more : q < num / den
  · omega
  · have same : num / den = q := by omega
    have rest : den < 2 * (num % den) := by
      rw [Nat.add_mul, Nat.mul_assoc, Nat.mul_comm q] at above
      rw [same] at split
      omega
    rw [roundDiv, if_neg (by omega), if_pos rest, same]
    omega

/-- The middle above a number goes to whichever neighbour is even. -/
theorem roundDiv_even {num den q : Nat} (positive : 0 < den) (tie : 2 * num = (2 * q + 1) * den) :
    roundDiv num den % 2 = 0 := by
  rw [Nat.add_mul, Nat.one_mul, Nat.mul_assoc, Nat.mul_comm q] at tie
  have split : num = (num - den * q) + den * q := by omega
  have half : 2 * (num - den * q) = den := by omega
  have floor : num / den = q := by
    rw [split, Nat.add_mul_div_left _ _ positive, Nat.div_eq_of_lt (by omega), Nat.zero_add]
  have rest : num % den = num - den * q := by
    rw [split, Nat.add_mul_mod_self_left, Nat.mod_eq_of_lt (by omega)]
    omega
  rw [roundDiv, floor, rest, if_neg (by omega), if_neg (by omega)]
  split <;> omega

namespace BinaryFormat

variable {f : BinaryFormat}

/-! ## Codes from their parts -/

/-- A significand without its leading bit only stands in the lowest binade. -/
structure IsParts (f : BinaryFormat) (binade significand : Nat) : Prop where
  significand_lt : significand < twoPow (f.fractionBits + 1)
  le_significand : binade ≠ 0 → twoPow f.fractionBits ≤ significand

theorem isParts (code : Nat) : f.IsParts (f.binade code) (f.significand code) :=
  ⟨significand_lt code, le_significand⟩

theorem IsParts.binade_eq {b s : Nat} (h : f.IsParts b s) :
    f.binade (b * twoPow f.fractionBits + s) = b := by
  have positive := twoPow_pos f.fractionBits
  have high := h.significand_lt
  rw [twoPow_succ] at high
  rw [binade, Nat.add_comm, Nat.add_mul_div_right _ _ positive]
  by_cases low : s < twoPow f.fractionBits
  · have lowest : b = 0 := by
      by_contra normal
      have bits := h.le_significand normal
      omega
    rw [Nat.div_eq_of_lt low, lowest]
  · have one : s / twoPow f.fractionBits = 1 := by
      apply Nat.div_eq_of_lt_le <;> omega
    omega

theorem IsParts.significand_eq {b s : Nat} (h : f.IsParts b s) :
    f.significand (b * twoPow f.fractionBits + s) = s := by
  have parts := binade_mul_add_significand (f := f) (b * twoPow f.fractionBits + s)
  rw [h.binade_eq] at parts
  omega

theorem IsParts.units_eq {b s : Nat} (h : f.IsParts b s) :
    f.units (b * twoPow f.fractionBits + s) = s * twoPow b := by
  rw [units, h.significand_eq, h.binade_eq]

/-- The next code is one step of the binade further, also where the next binade begins. -/
theorem units_succ (code : Nat) :
    f.units (code + 1) = f.units code + twoPow (f.binade code) := by
  have parts := binade_mul_add_significand (f := f) code
  have h := f.isParts code
  have own : f.units code = f.significand code * twoPow (f.binade code) := rfl
  rw [own]
  generalize f.binade code = b at parts h ⊢
  generalize f.significand code = s at parts h ⊢
  have high := h.significand_lt
  by_cases carry : s + 1 < twoPow (f.fractionBits + 1)
  · have next : f.IsParts b (s + 1) :=
      ⟨carry, fun normal => Nat.le_succ_of_le (h.le_significand normal)⟩
    rw [← parts, Nat.add_assoc, next.units_eq, Nat.succ_mul]
  · have last : s + 1 = twoPow f.fractionBits + twoPow f.fractionBits := by
      rw [twoPow_succ] at carry high
      omega
    have next : f.IsParts (b + 1) (twoPow f.fractionBits) := by
      refine ⟨?_, fun _ => Nat.le_refl _⟩
      rw [twoPow_succ]
      have positive := twoPow_pos f.fractionBits
      omega
    have code_succ : code + 1 = (b + 1) * twoPow f.fractionBits + twoPow f.fractionBits := by
      rw [Nat.succ_mul]
      omega
    rw [code_succ, next.units_eq, ← Nat.succ_mul, Nat.succ_eq_add_one, last, twoPow_succ,
      Nat.mul_comm _ 2, ← Nat.mul_assoc, Nat.mul_two]

theorem binade_le_binade {c d : Nat} (h : c ≤ d) : f.binade c ≤ f.binade d := by
  rw [binade, binade]
  exact Nat.sub_le_sub_right (Nat.div_le_div_right h) 1

/-- A number of units with no more bits than a significand is the magnitude of a code. -/
theorem exists_code {s : Nat} (bits : s < twoPow (f.fractionBits + 1)) (b : Nat) :
    ∃ code, code ≤ b * twoPow f.fractionBits + s ∧ f.binade code ≤ b ∧
      f.units code = s * twoPow b := by
  induction b generalizing s with
  | zero =>
      have parts : f.IsParts 0 s := ⟨bits, fun normal => absurd rfl normal⟩
      exact ⟨_, Nat.le_refl _, Nat.le_of_eq parts.binade_eq, parts.units_eq⟩
  | succ b ih =>
      by_cases normal : twoPow f.fractionBits ≤ s
      · have parts : f.IsParts (b + 1) s := ⟨bits, fun _ => normal⟩
        exact ⟨_, Nat.le_refl _, Nat.le_of_eq parts.binade_eq, parts.units_eq⟩
      · -- A leading zero of the significand is moved into the exponent.
        have shifted : s * 2 < twoPow (f.fractionBits + 1) := by
          rw [twoPow_succ]
          omega
        obtain ⟨code, bound, low, units⟩ := ih shifted
        refine ⟨code, ?_, by omega, ?_⟩
        · rw [Nat.succ_mul]
          omega
        · rw [units, twoPow_succ, Nat.mul_assoc, Nat.mul_comm 2]

/-! ## Rounding at the middles -/

section Rounding

variable {num den code : Nat}

/-- Twice the middle above a code. -/
theorem units_add_units_succ (code : Nat) :
    f.units code + f.units (code + 1) =
      (2 * f.significand code + 1) * twoPow (f.binade code) := by
  have own : f.units code = f.significand code * twoPow (f.binade code) := rfl
  rw [units_succ, own, Nat.succ_mul, Nat.mul_assoc]
  omega

/-- In units of its own binade a quotient has at most one bit more than a fraction. -/
theorem scaled_lt (num : Nat) (positive : 0 < den) :
    num * twoPow f.scale <
      twoPow (f.fractionBits + 1) *
        (den * twoPow ((num * twoPow f.scale / den).log2 - f.fractionBits)) := by
  have bits := lt_twoPow_log2_succ (num * twoPow f.scale / den)
  have more : twoPow ((num * twoPow f.scale / den).log2 + 1) ≤
      twoPow (f.fractionBits + 1 + ((num * twoPow f.scale / den).log2 - f.fractionBits)) :=
    twoPow_le (by omega)
  rw [Nat.mul_left_comm, ← twoPow_add, Nat.mul_comm den, ← Nat.div_lt_iff_lt_mul positive]
  exact Nat.lt_of_lt_of_le bits more

/-- A quotient below the next binade is rounded in this one at most. -/
theorem binade_le {scaled k : Nat} (positive : 0 < den)
    (below : scaled < twoPow (f.fractionBits + 1 + k) * den) :
    (scaled / den).log2 - f.fractionBits ≤ k := by
  have quotient : scaled / den < twoPow (f.fractionBits + 1 + k) :=
    (Nat.div_lt_iff_lt_mul positive).mpr below
  by_cases zero : scaled / den = 0
  · rw [zero, Nat.log2_zero]
    omega
  · have bits := (Nat.log2_lt zero).mpr quotient
    omega

/-- A quotient that has the leading bit of a binade is rounded in it at least. -/
theorem le_binade {scaled k : Nat} (positive : 0 < den)
    (above : k ≠ 0 → twoPow (f.fractionBits + k) * den ≤ scaled) :
    k ≤ (scaled / den).log2 - f.fractionBits := by
  by_cases lowest : k = 0
  · omega
  · have quotient := (Nat.le_div_iff_mul_le positive).mpr (above lowest)
    have bits := le_log2_of_twoPow_le quotient
    omega

/-- The middle above a code lies in the code's own binade. -/
theorem IsParts.middle_lt {b s : Nat} (h : f.IsParts b s) (positive : 0 < den) :
    (2 * s + 1) * twoPow b * den < 2 * (twoPow (f.fractionBits + 1 + b) * den) := by
  have bits := h.significand_lt
  calc (2 * s + 1) * twoPow b * den
    _ = (2 * s + 1) * (twoPow b * den) := Nat.mul_assoc _ _ _
    _ < 2 * twoPow (f.fractionBits + 1) * (twoPow b * den) :=
        Nat.mul_lt_mul_of_pos_right (by omega) (Nat.mul_pos (twoPow_pos b) positive)
    _ = 2 * (twoPow (f.fractionBits + 1 + b) * den) := by
        rw [twoPow_add _ b, Nat.mul_assoc, Nat.mul_assoc]

theorem IsParts.le_middle {b s : Nat} (h : f.IsParts b s) (normal : b ≠ 0) (den : Nat) :
    2 * (twoPow (f.fractionBits + b) * den) ≤ (2 * s + 1) * twoPow b * den := by
  have bits := h.le_significand normal
  calc 2 * (twoPow (f.fractionBits + b) * den)
    _ = 2 * twoPow f.fractionBits * (twoPow b * den) := by
        rw [twoPow_add _ b, Nat.mul_assoc, Nat.mul_assoc]
    _ ≤ (2 * s + 1) * (twoPow b * den) := Nat.mul_le_mul_right _ (by omega)
    _ = (2 * s + 1) * twoPow b * den := (Nat.mul_assoc _ _ _).symm

theorem nearest_le_of_units (positive : 0 < den)
    (below : 2 * (num * twoPow f.scale) < (f.units code + f.units (code + 1)) * den) :
    f.nearest num den ≤ code := by
  have parts := binade_mul_add_significand (f := f) code
  have h := f.isParts code
  have top := f.scaled_lt num positive
  rw [units_add_units_succ] at below
  rw [nearest]
  generalize num * twoPow f.scale = scaled at below top ⊢
  generalize f.binade code = k at parts h below
  generalize f.significand code = s at parts h below
  have binade : (scaled / den).log2 - f.fractionBits ≤ k := by
    have middle := h.middle_lt positive
    exact binade_le positive (by omega)
  generalize (scaled / den).log2 - f.fractionBits = b at top binade ⊢
  apply Nat.le_trans (Nat.min_le_right _ _)
  by_cases same : b = k
  · have rounded : roundDiv scaled (den * twoPow k) ≤ s := by
      apply roundDiv_le
      rwa [Nat.mul_comm den, ← Nat.mul_assoc]
    rw [same]
    omega
  · -- From a lower binade the quotient is rounded at most to where the next one begins.
    have rounded : roundDiv scaled (den * twoPow b) ≤ twoPow (f.fractionBits + 1) := by
      apply roundDiv_le
      rw [Nat.add_mul, Nat.mul_assoc]
      omega
    have lower : (b + 1) * twoPow f.fractionBits ≤ k * twoPow f.fractionBits :=
      Nat.mul_le_mul_right _ (by omega)
    have normal := h.le_significand (by omega)
    rw [twoPow_succ] at rounded
    rw [Nat.succ_mul] at lower
    omega

theorem lt_nearest_of_units (positive : 0 < den) (finite : code < f.infinity)
    (above : (f.units code + f.units (code + 1)) * den < 2 * (num * twoPow f.scale)) :
    code < f.nearest num den := by
  have parts := binade_mul_add_significand (f := f) code
  have h := f.isParts code
  rw [units_add_units_succ] at above
  rw [nearest]
  generalize num * twoPow f.scale = scaled at above ⊢
  generalize f.binade code = k at parts h above
  generalize f.significand code = s at parts h above
  have binade : k ≤ (scaled / den).log2 - f.fractionBits := by
    refine le_binade positive fun normal => ?_
    have middle := h.le_middle normal den
    omega
  rw [Nat.lt_min]
  refine ⟨finite, ?_⟩
  by_cases same : (scaled / den).log2 - f.fractionBits = k
  · have rounded : s < roundDiv scaled (den * twoPow k) := by
      apply lt_roundDiv (Nat.mul_pos positive (twoPow_pos k))
      rwa [Nat.mul_comm den, ← Nat.mul_assoc]
    rw [same]
    omega
  · -- In a higher binade the leading bit alone is beyond the code.
    have nonzero : scaled / den ≠ 0 := by
      intro zero
      rw [zero, Nat.log2_zero] at binade same
      omega
    have exponent : (scaled / den).log2 =
        f.fractionBits + ((scaled / den).log2 - f.fractionBits) := by omega
    have power : twoPow (scaled / den).log2 ≤ scaled / den := Nat.log2_self_le nonzero
    rw [exponent] at power
    generalize (scaled / den).log2 - f.fractionBits = b at binade same power ⊢
    have rounded : twoPow f.fractionBits ≤ roundDiv scaled (den * twoPow b) := by
      apply Nat.le_trans _ (div_le_roundDiv _ _)
      rw [← Nat.div_div_eq_div_mul, Nat.le_div_iff_mul_le (twoPow_pos b), ← twoPow_add]
      exact power
    have higher : (k + 1) * twoPow f.fractionBits ≤ b * twoPow f.fractionBits :=
      Nat.mul_le_mul_right _ (by omega)
    have top := h.significand_lt
    rw [twoPow_succ] at top
    rw [Nat.succ_mul] at higher
    omega

/-- The middle above a code is rounded to the even one of its neighbours. -/
theorem nearest_even_of_units (fraction : 0 < f.fractionBits) (positive : 0 < den)
    (tie : 2 * (num * twoPow f.scale) = (f.units code + f.units (code + 1)) * den) :
    f.nearest num den % 2 = 0 := by
  have h := f.isParts code
  rw [units_add_units_succ] at tie
  rw [nearest]
  generalize num * twoPow f.scale = scaled at tie ⊢
  generalize f.binade code = k at h tie
  generalize f.significand code = s at h tie
  have binade : (scaled / den).log2 - f.fractionBits = k := by
    apply Nat.le_antisymm
    · have middle := h.middle_lt positive
      exact binade_le positive (by omega)
    · refine le_binade positive fun normal => ?_
      have middle := h.le_middle normal den
      omega
  have rounded : roundDiv scaled (den * twoPow k) % 2 = 0 := by
    apply roundDiv_even (Nat.mul_pos positive (twoPow_pos k)) (q := s)
    rwa [Nat.mul_comm den, ← Nat.mul_assoc]
  obtain ⟨bits, width⟩ := Nat.exists_eq_succ_of_ne_zero (Nat.ne_of_gt fraction)
  have even (blocks : Nat) : blocks * twoPow f.fractionBits % 2 = 0 := by
    rw [width, twoPow_succ, ← Nat.mul_assoc, Nat.mul_mod_left]
  have carry := even k
  rw [binade]
  rcases Nat.le_total f.infinity
    (k * twoPow f.fractionBits + roundDiv scaled (den * twoPow k)) with beyond | within
  · rw [Nat.min_eq_left beyond]
    exact even _
  · rw [Nat.min_eq_right within]
    omega

end Rounding

/-! ## Magnitudes as rational numbers -/

/-- The magnitude of a code below infinity. -/
def magnitude (f : BinaryFormat) (code : Nat) : ℚ := f.units code / twoPow f.scale

/-- What the magnitude of the next code is greater by. -/
def gap (f : BinaryFormat) (code : Nat) : ℚ := twoPow (f.binade code) / twoPow f.scale

/-- The middle between the code and the next one. -/
def middle (f : BinaryFormat) (code : Nat) : ℚ := f.magnitude code + f.gap code / 2

theorem magnitude_eq_of_units {g : BinaryFormat} {c d : Nat}
    (same : f.units c * twoPow g.scale = g.units d * twoPow f.scale) :
    f.magnitude c = g.magnitude d := by
  rw [magnitude, magnitude, div_eq_div_iff (cast_twoPow_pos _).ne' (cast_twoPow_pos _).ne']
  exact_mod_cast same

theorem magnitude_zero : f.magnitude 0 = 0 := by
  have units : f.units 0 = 0 := by
    rw [units, significand, if_pos (twoPow_pos _), Nat.zero_mul]
  rw [magnitude, units, Nat.cast_zero, zero_div]

theorem magnitude_nonneg (code : Nat) : 0 ≤ f.magnitude code :=
  div_nonneg (Nat.cast_nonneg _) (cast_twoPow_pos _).le

theorem gap_pos (code : Nat) : 0 < f.gap code := div_pos (cast_twoPow_pos _) (cast_twoPow_pos _)

theorem magnitude_succ (code : Nat) : f.magnitude (code + 1) = f.magnitude code + f.gap code := by
  rw [magnitude, units_succ, Nat.cast_add, add_div]
  rfl

theorem magnitude_strictMono : StrictMono f.magnitude := by
  apply strictMono_nat_of_lt_succ
  intro code
  rw [magnitude_succ]
  exact lt_add_of_pos_right _ (gap_pos code)

theorem gap_mono {c d : Nat} (h : c ≤ d) : f.gap c ≤ f.gap d := by
  apply div_le_div_of_nonneg_right _ (cast_twoPow_pos _).le
  exact Nat.cast_le.mpr (twoPow_le (binade_le_binade h))

theorem magnitude_lt_middle (code : Nat) : f.magnitude code < f.middle code := by
  have positive := f.gap_pos code
  rw [middle]
  linarith

theorem middle_lt_magnitude_succ (code : Nat) : f.middle code < f.magnitude (code + 1) := by
  have positive := f.gap_pos code
  rw [middle, magnitude_succ]
  linarith

section Rounding

variable {num den code : Nat}

theorem middle_eq (code : Nat) :
    f.middle code = ((f.units code + f.units (code + 1) : ℕ) : ℚ) / (2 * twoPow f.scale : ℕ) := by
  have scale := (cast_twoPow_pos f.scale).ne'
  rw [middle, magnitude, gap, units_succ]
  push_cast
  field_simp
  ring

/-- What lies below the middle above a code is rounded to the code at most. -/
theorem nearest_le (positive : 0 < den) (below : (num : ℚ) / den < f.middle code) :
    f.nearest num den ≤ code := by
  have scale : 0 < 2 * twoPow f.scale := Nat.mul_pos (by decide) (twoPow_pos _)
  rw [middle_eq, div_lt_div_iff₀ (Nat.cast_pos.mpr positive) (Nat.cast_pos.mpr scale)] at below
  apply nearest_le_of_units positive
  rw [Nat.mul_left_comm]
  exact_mod_cast below

/-- What lies above the middle above a code is rounded to the next code at least. -/
theorem lt_nearest (positive : 0 < den) (finite : code < f.infinity)
    (above : f.middle code < (num : ℚ) / den) : code < f.nearest num den := by
  have scale : 0 < 2 * twoPow f.scale := Nat.mul_pos (by decide) (twoPow_pos _)
  rw [middle_eq, div_lt_div_iff₀ (Nat.cast_pos.mpr scale) (Nat.cast_pos.mpr positive)] at above
  apply lt_nearest_of_units positive finite
  rw [Nat.mul_left_comm]
  exact_mod_cast above

/-- The middle above a code is rounded to an even code. -/
theorem nearest_even (fraction : 0 < f.fractionBits) (positive : 0 < den)
    (tie : (num : ℚ) / den = f.middle code) : f.nearest num den % 2 = 0 := by
  have scale : 0 < 2 * twoPow f.scale := Nat.mul_pos (by decide) (twoPow_pos _)
  rw [middle_eq, div_eq_div_iff (Nat.cast_pos.mpr positive).ne' (Nat.cast_pos.mpr scale).ne'] at tie
  apply nearest_even_of_units fraction positive
  rw [Nat.mul_left_comm]
  exact_mod_cast tie

/-- Two quotients of one value have one nearest code. -/
theorem nearest_congr_div {num' den' : Nat} (pos : 0 < den) (pos' : 0 < den')
    (same : (num : ℚ) / den = num' / den') : f.nearest num den = f.nearest num' den' := by
  rw [div_eq_div_iff (Nat.cast_pos.mpr pos).ne' (Nat.cast_pos.mpr pos').ne'] at same
  exact f.nearest_congr pos pos' (by exact_mod_cast same)

/-- A quotient lies between the middles around its nearest code. -/
theorem le_middle_nearest (positive : 0 < den) (finite : f.nearest num den < f.infinity) :
    (num : ℚ) / den ≤ f.middle (f.nearest num den) := by
  by_contra above
  exact Nat.lt_irrefl _ (lt_nearest positive finite (not_le.mp above))

theorem middle_le_of_nearest (positive : 0 < den) (rounded : f.nearest num den = code + 1) :
    f.middle code ≤ (num : ℚ) / den := by
  by_contra below
  have least := nearest_le positive (not_le.mp below)
  omega

/-- A quotient is at most half a gap away from the magnitude that it is rounded to. -/
theorem abs_sub_magnitude_nearest_le (positive : 0 < den)
    (finite : f.nearest num den < f.infinity) :
    |(num : ℚ) / den - f.magnitude (f.nearest num den)| ≤ f.gap (f.nearest num den) / 2 := by
  have above := le_middle_nearest positive finite
  have below :
      f.magnitude (f.nearest num den) - f.gap (f.nearest num den) / 2 ≤ (num : ℚ) / den := by
    cases rounded : f.nearest num den with
    | zero =>
        have zero := f.magnitude_zero
        have quotient : (0 : ℚ) ≤ num / den := by positivity
        have gap := f.gap_pos 0
        linarith
    | succ code =>
        have least := middle_le_of_nearest positive rounded
        have wider : f.gap code ≤ f.gap (code + 1) := gap_mono (Nat.le_succ code)
        have next := f.magnitude_succ code
        rw [middle] at least
        linarith
  rw [middle] at above
  rw [abs_le]
  constructor <;> linarith

end Rounding

end BinaryFormat

/-! ## Values of decimals -/

theorem zpow_ten_eq_div (e : Int) : (10 : ℚ) ^ e = tenPow e.toNat / tenPow (-e).toNat := by
  rw [cast_tenPow, cast_tenPow]
  rcases Int.eq_nat_or_neg e with ⟨n, rfl | rfl⟩
  · rw [Int.toNat_natCast, Int.toNat_neg_natCast, zpow_natCast, pow_zero, div_one]
  · rw [neg_neg, Int.toNat_natCast, Int.toNat_neg_natCast, zpow_neg, zpow_natCast, pow_zero,
      one_div]

namespace Decimal

/-- The number that the decimal is. -/
def value (d : Decimal) : ℚ := d.coefficient * 10 ^ d.exponent

theorem value_eq_div (d : Decimal) : d.value = (d.numerator : ℚ) / d.denominator := by
  rw [value, numerator, denominator, Nat.cast_mul, zpow_ten_eq_div, mul_div_assoc]

end Decimal

end SqlAssembly.Numeric
