import Mathlib.Data.Int.Basic
import Mathlib.Data.Nat.GCD.Basic
import SqlAssembly.Proofs.Numeric.Magnitude

/-!
# Decimals near the middles of singles

A decimal with a short coefficient hardly ever comes close to the middle between two neighbouring
singles without being it: closer than half a gap of doubles there are two such decimals only
(`BinaryFormat.mem_nearMiddles`). In units of the single's binade the question is whether a
multiple of one fraction can be near to an odd number, and for every binade and every exponent
one good approximation of that fraction answers it.
-/

namespace SqlAssembly.Numeric

/-! ## Approximations -/

/-- Two ratios that are both close to a number agree if their terms are small. -/
theorem mul_eq_mul_of_close {x : ℚ} {p q m c : ℤ}
    (close : |q * (c * x - m)| + |c * (q * x - p)| < 1) : p * c = q * m := by
  have cross : ((p * c - q * m : ℤ) : ℚ) = q * (c * x - m) - c * (q * x - p) := by
    push_cast
    ring
  have small : |((p * c - q * m : ℤ) : ℚ)| < 1 := by
    rw [cross]
    exact (abs_sub _ _).trans_lt close
  have zero : p * c - q * m = 0 := Int.abs_lt_one_iff.mp (by exact_mod_cast small)
  omega

/-- The convergents of a fraction, up to the first whose error, times the fraction's denominator,
is at most `t`. The error of `p / q` is the remainder `v`, and `p'`, `q'` and `u` belong to the
convergent before it. -/
def convergent (t : Nat) : (fuel u v p q p' q' : Nat) → Nat × Nat
  | 0, _, _, p, q, _, _ => (p, q)
  | fuel + 1, u, v, p, q, p', q' =>
      if v ≤ t then (p, q)
      else convergent t fuel v (u % v) (u / v * p + p') (u / v * q + q') p q

/-- How far `q` times the fraction is from `p`, times the fraction's denominator. -/
def distance (num den p q : Nat) : Nat := (num * q - p * den) + (p * den - num * q)

/-- The codes below the two middles that a decimal is near to. -/
def nearMiddles : List Nat := [0x15ae43fd, 0x162e43fd]

/-- `p / q` decides which multiples of `num / den` are near to odd numbers, where `first` is the
code that a binade begins with. It is close enough to `num / den` for every other ratio of small
numbers to be farther away. Of the ratio's own multiples nothing has to be said if they are odd
numbers themselves, are too far from them, are near to even ones or have too long a coefficient;
otherwise they are too large or listed. -/
structure Settles (first num den p q : Nat) : Prop where
  close : q * den + twoPow 54 * distance num den p q < twoPow 29 * den
  coprime : Nat.Coprime p q
  settled : distance num den p q = 0 ∨ den < distance num den p q * twoPow 29 ∨ p % 2 = 0 ∨
    p < q ∨ twoPow 24 ≤ p ∧ (twoPow 25 ≤ p ∨ first + p / 2 ∈ nearMiddles)

theorem abs_sub_eq_distance {num den : Nat} (positive : 0 < den) (p q : Nat) :
    |(q : ℚ) * (num / den) - p| = distance num den p q / den := by
  have den_pos : (0 : ℚ) < den := Nat.cast_pos.mpr positive
  have scaled : (q : ℚ) * (num / den) - p = (((num * q : ℕ) : ℚ) - (p * den : ℕ)) / den := by
    push_cast
    field_simp
  rw [scaled, abs_div, abs_of_pos den_pos, distance]
  rcases Nat.le_total (p * den) (num * q) with le | le
  · rw [Nat.sub_eq_zero_of_le le, Nat.add_zero, Nat.cast_sub le, abs_of_nonneg]
    exact sub_nonneg.mpr (Nat.cast_le.mpr le)
  · rw [Nat.sub_eq_zero_of_le le, Nat.zero_add, Nat.cast_sub le, abs_sub_comm, abs_of_nonneg]
    exact sub_nonneg.mpr (Nat.cast_le.mpr le)

namespace Settles

variable {first num den p q m c : Nat}

theorem den_pos (h : Settles first num den p q) : 0 < den := by
  have close := h.close
  by_contra zero
  simp [show den = 0 by omega] at close

theorem close_div (h : Settles first num den p q) :
    (q : ℚ) * (1 / twoPow 29) + twoPow 25 * (distance num den p q / den) < 1 := by
  have scaled : ((q * den + twoPow 54 * distance num den p q : ℕ) : ℚ) < (twoPow 29 * den : ℕ) :=
    Nat.cast_lt.mpr h.close
  have den_cast : (0 : ℚ) < den := Nat.cast_pos.mpr h.den_pos
  have whole : (q : ℚ) * (1 / twoPow 29) + twoPow 25 * (distance num den p q / den) =
      ((q * den + twoPow 54 * distance num den p q : ℕ) : ℚ) / (twoPow 29 * den : ℕ) := by
    push_cast
    simp only [cast_twoPow]
    field_simp
  rw [whole, div_lt_one (Nat.cast_pos.mpr (Nat.mul_pos (twoPow_pos 29) h.den_pos))]
  exact scaled

/-- A short multiple that is near to a number is a multiple of the ratio's terms: the ratio is in
lowest terms, and no other one is as close. -/
theorem exists_multiple (h : Settles first num den p q) (small : c ≤ twoPow 25) (positive : 0 < c)
    (near : |(c : ℚ) * (num / den) - m| ≤ 1 / twoPow 29) : ∃ j, 0 < j ∧ c = q * j ∧ m = p * j := by
  have error : |(q : ℚ) * (num / den) - p| = distance num den p q / den :=
    abs_sub_eq_distance h.den_pos p q
  have close := h.close_div
  have ratio : p * c = q * m := by
    have same : (p : ℤ) * c = q * m := by
      apply mul_eq_mul_of_close (x := num / den)
      have one : |(q : ℚ) * (c * (num / den) - m)| ≤ q * (1 / twoPow 29) := by
        rw [abs_mul, Nat.abs_cast]
        exact mul_le_mul_of_nonneg_left near (Nat.cast_nonneg q)
      have other : |(c : ℚ) * (q * (num / den) - p)| ≤
          twoPow 25 * (distance num den p q / den) := by
        rw [abs_mul, Nat.abs_cast, error]
        exact mul_le_mul_of_nonneg_right (Nat.cast_le.mpr small) (by positivity)
      push_cast
      linarith
    exact_mod_cast same
  obtain ⟨j, rfl⟩ : q ∣ c := h.coprime.symm.dvd_of_dvd_mul_left ⟨m, ratio⟩
  refine ⟨j, Nat.pos_of_mul_pos_left positive, rfl, ?_⟩
  apply Nat.eq_of_mul_eq_mul_left (Nat.pos_of_mul_pos_right positive)
  rw [← ratio, Nat.mul_left_comm]

/-- A short multiple that is near to an odd number, and not equal to it, is listed. -/
theorem mem_nearMiddles (h : Settles first num den p q) (odd : m % 2 = 1) (small : m < twoPow 25)
    (positive : 0 < c) (short : c ≤ m) (near : |(c : ℚ) * (num / den) - m| ≤ 1 / twoPow 29)
    (off : (c : ℚ) * (num / den) ≠ m) : first + m / 2 ∈ nearMiddles := by
  have den_cast : (0 : ℚ) < den := Nat.cast_pos.mpr h.den_pos
  obtain ⟨j, j_pos, rfl, rfl⟩ := h.exists_multiple (by omega) positive near
  have multiple : |((q * j : ℕ) : ℚ) * (num / den) - (p * j : ℕ)| =
      j * (distance num den p q / den) := by
    have factor : ((q * j : ℕ) : ℚ) * (num / den) - (p * j : ℕ) = j * (q * (num / den) - p) := by
      push_cast
      ring
    rw [factor, abs_mul, Nat.abs_cast, abs_sub_eq_distance h.den_pos]
  have error : (distance num den p q : ℚ) / den ≤ 1 / twoPow 29 := by
    have one : (1 : ℚ) ≤ j := by exact_mod_cast j_pos
    have nonneg : (0 : ℚ) ≤ distance num den p q / den := by positivity
    rw [multiple] at near
    exact (le_mul_of_one_le_left nonneg one).trans near
  rcases h.settled with zero | far | even | long | ⟨large, listed⟩
  · rw [zero, Nat.cast_zero, zero_div, mul_zero, abs_eq_zero, sub_eq_zero] at multiple
    exact absurd multiple off
  · have beyond : (1 : ℚ) / twoPow 29 < distance num den p q / den := by
      rw [div_lt_div_iff₀ (cast_twoPow_pos 29) den_cast, one_mul]
      exact_mod_cast far
    exact absurd error (not_le.mpr beyond)
  · rw [Nat.mul_mod, even] at odd
    simp at odd
  · have more : p * j < q * j := Nat.mul_lt_mul_of_pos_right long j_pos
    omega
  · obtain rfl : j = 1 := by
      by_contra several
      have twice : twoPow 24 * 2 ≤ p * j := Nat.mul_le_mul large (by omega)
      exact Nat.lt_irrefl _ (Nat.lt_of_le_of_lt twice small)
    rw [Nat.mul_one] at small ⊢
    exact listed.resolve_left (by omega)

end Settles

/-! ## Powers of ten in units of a binade -/

/-- The power of ten over half a gap in the binade of singles, as a fraction. -/
def powerNum (binade : Nat) (e : Int) : Nat := tenPow e.toNat * twoPow (150 - binade)

def powerDen (binade : Nat) (e : Int) : Nat := tenPow (-e).toNat * twoPow (binade - 150)

theorem powerDen_pos (k : Nat) (e : Int) : 0 < powerDen k e :=
  Nat.mul_pos (tenPow_pos _) (twoPow_pos _)

theorem twoPow_sub_div_twoPow_sub (m n : Nat) :
    (twoPow (m - n) : ℚ) / twoPow (n - m) = twoPow m / twoPow n := by
  rw [div_eq_div_iff (cast_twoPow_pos _).ne' (cast_twoPow_pos _).ne']
  have same : twoPow (m - n) * twoPow n = twoPow m * twoPow (n - m) := by
    rw [← twoPow_add, ← twoPow_add, show m - n + n = m + (n - m) by omega]
  exact_mod_cast same

theorem powerNum_div_powerDen (k : Nat) (e : Int) :
    (powerNum k e : ℚ) / powerDen k e = 10 ^ e / (twoPow k / twoPow 150) := by
  rw [powerNum, powerDen, Nat.cast_mul, Nat.cast_mul, mul_div_mul_comm, ← zpow_ten_eq_div,
    twoPow_sub_div_twoPow_sub, div_div_eq_mul_div, mul_div_assoc]

/-- Below this exponent a power of ten is less than half of half a gap, and nine exponents further
it is beyond every middle of the binade. -/
def lowestExponent (k : Nat) : Int := (k * 77 / 256 : Nat) - 45

theorem powers_beyond : ∀ k < 254,
    2 * powerNum k (lowestExponent k - 1) < powerDen k (lowestExponent k - 1) ∧
      twoPow 26 * powerDen k (lowestExponent k + 9) < powerNum k (lowestExponent k + 9) := by
  decide +kernel

/-- The convergent that settles a binade and an exponent. -/
def settling (k : Nat) (e : Int) : Nat × Nat :=
  convergent (powerDen k e / twoPow 26) 40 (powerNum k e) (powerDen k e) 1 0 0 1

instance (first num den p q : Nat) : Decidable (Settles first num den p q) :=
  decidable_of_iff (_ ∧ _ ∧ _)
    ⟨fun h => ⟨h.1, h.2.1, h.2.2⟩, fun h => ⟨h.close, h.coprime, h.settled⟩⟩

theorem settles_settling : ∀ k < 254, ∀ i < 9,
    Settles (k * twoPow 23) (powerNum k (lowestExponent k + (i : Nat)))
      (powerDen k (lowestExponent k + (i : Nat))) (settling k (lowestExponent k + (i : Nat))).1
      (settling k (lowestExponent k + (i : Nat))).2 := by
  decide +kernel

theorem exists_exponent {k : Nat} (hk : k < 254) {e : Int}
    (low : 1 / 2 ≤ (powerNum k e : ℚ) / powerDen k e)
    (high : (powerNum k e : ℚ) / powerDen k e ≤ twoPow 26) :
    ∃ i < 9, e = lowestExponent k + (i : Nat) := by
  have unit : (0 : ℚ) < twoPow k / twoPow 150 :=
    div_pos (cast_twoPow_pos k) (cast_twoPow_pos 150)
  have mono {a b : Int} (h : a ≤ b) :
      (powerNum k a : ℚ) / powerDen k a ≤ powerNum k b / powerDen k b := by
    rw [powerNum_div_powerDen, powerNum_div_powerDen]
    exact div_le_div_of_nonneg_right (zpow_le_zpow_right₀ (by norm_num) h) unit.le
  obtain ⟨below, beyond⟩ := powers_beyond k hk
  have least : lowestExponent k ≤ e := by
    by_contra less
    have ratio : (powerNum k (lowestExponent k - 1) : ℚ) / powerDen k (lowestExponent k - 1) <
        1 / 2 := by
      rw [div_lt_div_iff₀ (Nat.cast_pos.mpr (powerDen_pos _ _)) (by norm_num), one_mul, mul_comm]
      exact_mod_cast below
    exact absurd (low.trans (mono (by omega))) (not_le.mpr ratio)
  have most : e < lowestExponent k + 9 := by
    by_contra more
    have ratio : (twoPow 26 : ℚ) <
        powerNum k (lowestExponent k + 9) / powerDen k (lowestExponent k + 9) := by
      rw [lt_div_iff₀ (Nat.cast_pos.mpr (powerDen_pos _ _))]
      exact_mod_cast beyond
    exact absurd ((mono (by omega)).trans high) (not_le.mpr ratio)
  exact ⟨(e - lowestExponent k).toNat, by omega, by omega⟩

/-! ## Middles of singles -/

/-- If a multiple is near to a number and the fraction itself is not much less than one, then the
coefficient is at most that number. -/
theorem short_of_near {x : ℚ} {c m : Nat} (least : 1 ≤ m) (small : m + 1 ≤ twoPow 25)
    (near : |c * x - m| ≤ 1 / twoPow 29) (coarse : 1 ≤ |c * x - m| + x) :
    0 < c ∧ c ≤ m ∧ 1 / 2 ≤ x ∧ x ≤ twoPow 26 := by
  have one : (1 : ℚ) ≤ m := by exact_mod_cast least
  have bits : (m : ℚ) + 1 ≤ twoPow 25 := by exact_mod_cast small
  rw [cast_twoPow] at near bits ⊢
  obtain ⟨above, below⟩ := abs_le.mp near
  have unit : 1 - 1 / 2 ^ 29 ≤ x := by linarith
  have nonneg : 0 ≤ x := le_trans (by norm_num) unit
  have positive : 0 < c := by
    by_contra zero
    rw [show c = 0 by omega, Nat.cast_zero, zero_mul] at above
    norm_num at above
    linarith
  refine ⟨positive, ?_, le_trans (by norm_num) unit, ?_⟩
  · by_contra long
    have more : (m : ℚ) + 1 ≤ c := by exact_mod_cast (by omega : m + 1 ≤ c)
    have product : ((m : ℚ) + 1) * (1 - 1 / 2 ^ 29) ≤ c * x :=
      mul_le_mul more unit (by norm_num) (Nat.cast_nonneg c)
    norm_num at product below bits
    linarith
  · have once : x ≤ c * x := le_mul_of_one_le_left nonneg (by exact_mod_cast positive)
    norm_num at below bits ⊢
    linarith

theorem mem_nearMiddles_of_multiple {k s c : Nat} {e : Int} (binade : k < 254)
    (significand : s < twoPow 24)
    (near : |(c : ℚ) * (powerNum k e / powerDen k e) - (2 * s + 1 : ℕ)| ≤ 1 / twoPow 29)
    (coarse : 1 ≤ |(c : ℚ) * (powerNum k e / powerDen k e) - (2 * s + 1 : ℕ)| +
      powerNum k e / powerDen k e)
    (off : (c : ℚ) * (powerNum k e / powerDen k e) ≠ (2 * s + 1 : ℕ)) :
    k * twoPow 23 + s ∈ nearMiddles := by
  have double : twoPow 25 = twoPow 24 * 2 := rfl
  obtain ⟨positive, short, low, high⟩ := short_of_near (by omega) (by omega) near coarse
  obtain ⟨i, hi, rfl⟩ := exists_exponent binade low high
  have listed := (settles_settling k binade i hi).mem_nearMiddles (by omega) (by omega) positive
    short near off
  rwa [show (2 * s + 1) / 2 = s by omega] at listed

namespace BinaryFormat

theorem middle_eq_mul (f : BinaryFormat) (code : Nat) :
    f.middle code = (2 * f.significand code + 1 : ℕ) * (f.gap code / 2) := by
  rw [middle, magnitude, gap, units]
  push_cast
  ring

theorem binade_single_lt {code : Nat} (finite : code < single.infinity) :
    single.binade code < 254 := by
  have blocks : code / twoPow 23 < 255 := by
    rw [Nat.div_lt_iff_lt_mul (twoPow_pos 23)]
    exact finite
  have bits : single.fractionBits = 23 := rfl
  rw [binade, bits]
  omega

/-- A decimal that is at most one unit of its last digit away from a single, and closer to a
middle beside that single than half a gap of doubles, is the middle or near to a middle that is
listed. -/
theorem mem_nearMiddles {code c : Nat} {e : Int} (finite : code < single.infinity)
    (near : |(c : ℚ) * 10 ^ e - single.middle code| ≤ single.gap code / twoPow 30)
    (coarse : single.gap code / 2 ≤ |(c : ℚ) * 10 ^ e - single.middle code| + 10 ^ e)
    (off : (c : ℚ) * 10 ^ e ≠ single.middle code) : code ∈ nearMiddles := by
  have parts := binade_mul_add_significand (f := single) code
  have significand : single.significand code < twoPow 24 := significand_lt code
  have binade := binade_single_lt finite
  have half : single.gap code / 2 = twoPow (single.binade code) / twoPow 150 := by
    have scale : single.scale = 149 := rfl
    rw [gap, scale, div_div, twoPow_succ 149, Nat.cast_mul, Nat.cast_two]
  have unit : 0 < single.gap code / 2 := half_pos (gap_pos code)
  have tolerance : single.gap code / twoPow 30 = 1 / twoPow 29 * (single.gap code / 2) := by
    rw [twoPow_succ 29, Nat.cast_mul, Nat.cast_two]
    ring
  have ratio := powerNum_div_powerDen (single.binade code) e
  rw [← half, eq_div_iff unit.ne'] at ratio
  -- Everything is measured in halves of the gap.
  have scaled : (c : ℚ) * 10 ^ e - single.middle code =
      (c * (powerNum (single.binade code) e / powerDen (single.binade code) e) -
        (2 * single.significand code + 1 : ℕ)) * (single.gap code / 2) := by
    rw [middle_eq_mul, ← ratio]
    ring
  rw [scaled, abs_mul, abs_of_pos unit] at near coarse
  rw [← sub_ne_zero, scaled] at off
  have listed := mem_nearMiddles_of_multiple (e := e) (c := c) binade significand
    (le_of_mul_le_mul_right (by rwa [tolerance] at near) unit)
    (by
      rw [← ratio, ← add_mul] at coarse
      exact le_of_mul_le_mul_right (by rwa [one_mul]) unit)
    (sub_ne_zero.mp (left_ne_zero_of_mul off))
  have bits : single.fractionBits = 23 := rfl
  rw [bits] at parts
  rwa [parts] at listed

end BinaryFormat

end SqlAssembly.Numeric
