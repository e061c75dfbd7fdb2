import SqlAssembly.Numeric.BinaryFloat
import SqlAssembly.Proofs.Numeric.Magnitude

/-!
# Rounding to nearest, ties to even

A quotient is rounded to the code whose magnitude is nearest to it, and if another magnitude is as
near, to an even code (`BinaryFormat.abs_sub_nearest_le`, `BinaryFormat.nearest_even_of_tie`). So a
finite number that stays finite in another format becomes the nearest number of that format, also
among those of the other sign (`BinaryFloat.roundsTo_convert`), and comes back if the other format
has it (`BinaryFloat.RoundsTo.convert_eq`). A decimal has no other nearest number than the one that
it is rounded to (`BinaryFloat.IsNearest.nearest_eq`).
-/

namespace SqlAssembly.Numeric

/-- On the near side of the middle between two numbers the near one is the nearer, and both are as
near only on the middle itself. -/
theorem nearer_of_le_middle {x near far z : ℚ} (less : near < far) (middle : 2 * x ≤ near + far)
    (beyond : far ≤ z) :
    |x - near| ≤ |x - z| ∧ (|x - z| = |x - near| → 2 * x = near + far) := by
  have distance : |x - z| = z - x := by
    rw [abs_sub_comm, abs_of_nonneg]
    linarith
  rw [distance]
  constructor
  · rw [abs_le]
    constructor <;> linarith
  · intro tie
    rcases abs_cases (x - near) with ⟨above, _⟩ | ⟨below, _⟩ <;> linarith

theorem le_middle_of_nearer {x near far : ℚ} (less : near < far) (nearer : |x - near| ≤ |x - far|) :
    2 * x ≤ near + far := by
  rcases abs_cases (x - near) with ⟨left, _⟩ | ⟨left, _⟩ <;>
    rcases abs_cases (x - far) with ⟨right, _⟩ | ⟨right, _⟩ <;> linarith

namespace BinaryFormat

variable {f : BinaryFormat}

theorem two_mul_middle (code : Nat) :
    2 * f.middle code = f.magnitude code + f.magnitude (code + 1) := by
  rw [middle, magnitude_succ]
  ring

section Rounding

variable {num den code : Nat}

/-- Another magnitude is no nearer to a quotient than the one that it is rounded to, and is as near
only across a middle that the quotient lies on. -/
theorem nearer_nearest (positive : 0 < den) (finite : f.nearest num den < f.infinity)
    (other : code ≠ f.nearest num den) :
    |(num : ℚ) / den - f.magnitude (f.nearest num den)| ≤ |(num : ℚ) / den - f.magnitude code| ∧
      (|(num : ℚ) / den - f.magnitude code| =
          |(num : ℚ) / den - f.magnitude (f.nearest num den)| →
        ∃ below, (num : ℚ) / den = f.middle below) := by
  rcases Nat.lt_or_gt_of_ne other with less | greater
  · -- Below the code everything is mirrored.
    obtain ⟨before, rounded⟩ := Nat.exists_eq_succ_of_ne_zero (Nat.ne_zero_of_lt less)
    have middle := middle_le_of_nearest positive rounded
    have twice := f.two_mul_middle before
    have near : f.magnitude before < f.magnitude (before + 1) := magnitude_strictMono (by omega)
    have beyond : f.magnitude code ≤ f.magnitude before := magnitude_strictMono.monotone (by omega)
    rw [rounded]
    generalize (num : ℚ) / den = x at middle ⊢
    have mirrored := nearer_of_le_middle (x := -x) (neg_lt_neg near) (by linarith)
      (neg_le_neg beyond)
    rw [neg_sub_neg, neg_sub_neg, abs_sub_comm, abs_sub_comm (f.magnitude code)] at mirrored
    refine ⟨mirrored.1, fun tie => ⟨before, ?_⟩⟩
    have equal := mirrored.2 tie
    linarith
  · have middle := le_middle_nearest positive finite
    have twice := f.two_mul_middle (f.nearest num den)
    have near : f.magnitude (f.nearest num den) < f.magnitude (f.nearest num den + 1) :=
      magnitude_strictMono (by omega)
    have beyond : f.magnitude (f.nearest num den + 1) ≤ f.magnitude code :=
      magnitude_strictMono.monotone greater
    generalize f.nearest num den = nearest at middle twice near beyond ⊢
    generalize (num : ℚ) / den = x at middle ⊢
    have nearer := nearer_of_le_middle (x := x) near (by linarith) beyond
    refine ⟨nearer.1, fun tie => ⟨nearest, ?_⟩⟩
    have equal := nearer.2 tie
    linarith

theorem abs_sub_nearest_le (positive : 0 < den) (finite : f.nearest num den < f.infinity)
    (code : Nat) :
    |(num : ℚ) / den - f.magnitude (f.nearest num den)| ≤
      |(num : ℚ) / den - f.magnitude code| := by
  by_cases other : code = f.nearest num den
  · rw [other]
  · exact (nearer_nearest positive finite other).1

theorem nearest_even_of_tie (fraction : 0 < f.fractionBits) (positive : 0 < den)
    (finite : f.nearest num den < f.infinity) (other : code ≠ f.nearest num den)
    (tie : |(num : ℚ) / den - f.magnitude code| =
      |(num : ℚ) / den - f.magnitude (f.nearest num den)|) :
    f.nearest num den % 2 = 0 := by
  obtain ⟨below, middle⟩ := (nearer_nearest positive finite other).2 tie
  exact nearest_even fraction positive middle

theorem middle_strictMono : StrictMono f.middle :=
  strictMono_nat_of_lt_succ fun code =>
    (middle_lt_magnitude_succ code).trans (magnitude_lt_middle (code + 1))

/-- A middle is rounded to one of the codes around it. -/
theorem nearest_of_middle (positive : 0 < den) (finite : code < f.infinity)
    (tie : (num : ℚ) / den = f.middle code) :
    f.nearest num den = code ∨ f.nearest num den = code + 1 := by
  have most : f.nearest num den ≤ code + 1 :=
    nearest_le positive (tie.trans_lt (middle_strictMono (Nat.lt_succ_self code)))
  have least : code ≤ f.nearest num den := by
    cases code with
    | zero => exact Nat.zero_le _
    | succ last =>
        have above := (middle_strictMono (Nat.lt_succ_self last)).trans_eq tie.symm
        exact lt_nearest positive (by omega) above
  omega

end Rounding

end BinaryFormat

/-! ## Signed numbers -/

namespace BinaryFloat

open BinaryFormat

variable {f g : BinaryFormat}

/-- The number that a finite one stands for. -/
def value (x : BinaryFloat f) : ℚ :=
  if x.negative then -f.magnitude x.code else f.magnitude x.code

/-- One number rounded to another: of one sign, infinite if and only if it was, and otherwise
nearest to it among the finite numbers, where the even code decides a tie. -/
structure RoundsTo (x : BinaryFloat f) (y : BinaryFloat g) : Prop where
  negative_eq : y.negative = x.negative
  finite : x.IsFinite → y.IsFinite
  infinite : ¬ x.IsFinite → y.code = g.infinity
  nearest : x.IsFinite → ∀ z : BinaryFloat g, z.IsFinite →
    |x.value - y.value| ≤ |x.value - z.value|
  even : x.IsFinite → ∀ z : BinaryFloat g, z.IsFinite → z.value ≠ y.value →
    |x.value - z.value| = |x.value - y.value| → y.code % 2 = 0

theorem abs_sub_value_of_eq {x : BinaryFloat f} {y : BinaryFloat g}
    (same : y.negative = x.negative) :
    |x.value - y.value| = |f.magnitude x.code - g.magnitude y.code| := by
  rw [value, value, same]
  split
  · rw [neg_sub_neg, abs_sub_comm]
  · rfl

theorem abs_sub_value_of_ne {x : BinaryFloat f} {y : BinaryFloat g}
    (opposite : y.negative ≠ x.negative) :
    |x.value - y.value| = f.magnitude x.code + g.magnitude y.code := by
  have own := f.magnitude_nonneg x.code
  have other := g.magnitude_nonneg y.code
  rw [value, value]
  cases sign : x.negative with
  | true =>
      have positive : y.negative = false := by simpa [sign] using opposite
      rw [positive, if_pos rfl, if_neg (by decide), ← neg_add', abs_neg, abs_of_nonneg]
      exact add_nonneg own other
  | false =>
      have negative : y.negative = true := by simpa [sign] using opposite
      rw [negative, if_pos rfl, if_neg (by decide), sub_neg_eq_add, abs_of_nonneg]
      exact add_nonneg own other

/-! ## Conversion -/

theorem IsFinite.not_isNaN {x : BinaryFloat f} (finite : x.IsFinite) : ¬ x.IsNaN :=
  Nat.lt_asymm finite

theorem code_eq_infinity {x : BinaryFloat f} (number : ¬ x.IsNaN) (unbounded : ¬ x.IsFinite) :
    x.code = f.infinity :=
  Nat.le_antisymm (Nat.not_lt.mp number) (Nat.not_lt.mp unbounded)

theorem negative_convert {x : BinaryFloat f} (number : ¬ x.IsNaN) :
    (x.convert g).negative = x.negative := by
  rw [convert, if_neg number]
  split <;> rfl

theorem code_convert {x : BinaryFloat f} (finite : x.IsFinite) :
    (x.convert g).code = f.recode g x.code := by
  rw [convert, if_neg finite.not_isNaN, if_pos finite]

theorem code_convert_infinite {x : BinaryFloat f} (number : ¬ x.IsNaN) (unbounded : ¬ x.IsFinite) :
    (x.convert g).code = g.infinity := by
  rw [convert, if_neg number, if_neg unbounded]

/-- Signs and codes decide what a number is. -/
theorem eq_of_negative_of_code {x y : BinaryFloat f} (negative : x.negative = y.negative)
    (code : x.code = y.code) : x = y := by
  cases x
  cases y
  cases negative
  cases code
  rfl

theorem neg_ofInt_natAbs {z : Int} (below : z < 0) :
    (ofInt f (z.natAbs : Int)).neg = ofInt f z := by
  have positive : ¬ (z.natAbs : Int) < 0 := by omega
  apply eq_of_negative_of_code
  · simp only [neg, ofInt, decide_eq_false positive, decide_eq_true below, Bool.not_false]
  · rfl

section Nearest

variable {x : BinaryFloat f} {y : BinaryFloat g}

/-- The number is no farther away than zero is. -/
theorem abs_sub_value_le_magnitude (bounded : y.IsFinite) (negative : y.negative = x.negative)
    (code : y.code = f.recode g x.code) : |x.value - y.value| ≤ f.magnitude x.code := by
  rw [IsFinite, code] at bounded
  have zero : |f.magnitude x.code - g.magnitude (f.recode g x.code)| ≤
      |f.magnitude x.code - g.magnitude 0| := abs_sub_nearest_le (twoPow_pos _) bounded 0
  rw [magnitude_zero, sub_zero, abs_of_nonneg (magnitude_nonneg _)] at zero
  rw [abs_sub_value_of_eq negative, code]
  exact zero

/-- Zero is of both signs, so no number of the other sign is nearer. -/
theorem abs_sub_value_le (bounded : y.IsFinite) (negative : y.negative = x.negative)
    (code : y.code = f.recode g x.code) (z : BinaryFloat g) :
    |x.value - y.value| ≤ |x.value - z.value| := by
  by_cases same : z.negative = x.negative
  · rw [IsFinite, code] at bounded
    rw [abs_sub_value_of_eq negative, code, abs_sub_value_of_eq same]
    exact abs_sub_nearest_le (twoPow_pos _) bounded z.code
  · rw [abs_sub_value_of_ne same]
    exact (abs_sub_value_le_magnitude bounded negative code).trans
      (le_add_of_nonneg_right (magnitude_nonneg _))

theorem even_of_tie (fraction : 0 < g.fractionBits) (bounded : y.IsFinite)
    (negative : y.negative = x.negative) (code : y.code = f.recode g x.code) {z : BinaryFloat g}
    (different : z.value ≠ y.value) (equal : |x.value - z.value| = |x.value - y.value|) :
    y.code % 2 = 0 := by
  have zero := abs_sub_value_le_magnitude bounded negative code
  rw [IsFinite, code] at bounded
  have tie {c : Nat} (other : c ≠ y.code)
      (equal : |f.magnitude x.code - g.magnitude c| = |f.magnitude x.code - g.magnitude y.code|) :
      y.code % 2 = 0 := by
    rw [code] at other equal ⊢
    exact nearest_even_of_tie fraction (twoPow_pos _) bounded other equal
  rw [abs_sub_value_of_eq negative] at equal
  by_cases same : z.negative = x.negative
  · rw [abs_sub_value_of_eq same] at equal
    refine tie (fun code => different ?_) equal
    rw [value, value, same, negative, code]
  · -- The other number is as near only if zero is.
    by_cases lowest : y.code = 0
    · rw [lowest]
    · refine tie (c := 0) (Ne.symm lowest) ?_
      have own := f.magnitude_nonneg x.code
      have other := g.magnitude_nonneg z.code
      rw [abs_sub_value_of_eq negative] at zero
      rw [abs_sub_value_of_ne same] at equal
      rw [magnitude_zero, sub_zero, abs_of_nonneg own]
      linarith

end Nearest

/-- Conversion rounds every number that does not become infinite by it. -/
theorem roundsTo_convert {x : BinaryFloat f} (fraction : 0 < g.fractionBits) (number : ¬ x.IsNaN)
    (inside : x.IsFinite → (x.convert g).IsFinite) : x.RoundsTo (x.convert g) where
  negative_eq := negative_convert number
  finite := inside
  infinite := code_convert_infinite number
  nearest finite z _ :=
    abs_sub_value_le (inside finite) (negative_convert number) (code_convert finite) z
  even finite _ _ :=
    even_of_tie fraction (inside finite) (negative_convert number) (code_convert finite)

/-- A number that the other format has comes back from it. -/
theorem RoundsTo.convert_eq {x : BinaryFloat f} {y : BinaryFloat g} (h : x.RoundsTo y)
    (number : ¬ x.IsNaN)
    (exact : x.IsFinite → ∃ z : BinaryFloat g, z.IsFinite ∧ z.value = x.value) :
    y.convert f = x := by
  by_cases finite : x.IsFinite
  · have bounded := h.finite finite
    obtain ⟨z, bounded_z, same⟩ := exact finite
    have distance := h.nearest finite z bounded_z
    rw [same, sub_self, abs_zero, abs_sub_value_of_eq h.negative_eq] at distance
    have magnitude : g.magnitude y.code = f.magnitude x.code :=
      (sub_eq_zero.mp (abs_nonpos_iff.mp distance)).symm
    apply eq_of_negative_of_code
    · rw [negative_convert bounded.not_isNaN, h.negative_eq]
    · rw [code_convert bounded, recode,
        nearest_congr_div (twoPow_pos _) (twoPow_pos f.scale) magnitude, nearest_units finite]
  · have infinite := h.infinite finite
    have number_y : ¬ y.IsNaN := fun nan => Nat.ne_of_gt nan infinite
    have unbounded_y : ¬ y.IsFinite := fun bounded => Nat.ne_of_lt bounded infinite
    apply eq_of_negative_of_code
    · rw [negative_convert number_y, h.negative_eq]
    · rw [code_convert_infinite number_y unbounded_y, code_eq_infinity number finite]

/-! ## Nearest numbers -/

section IsNearest

variable {x : BinaryFloat f} {d : Decimal}

/-- The number is finite and its magnitude nearest to the given one; if another is as near, its own
code is even. -/
structure IsNearest (x : BinaryFloat f) (value : ℚ) : Prop where
  finite : x.IsFinite
  nearest : ∀ code, |value - f.magnitude x.code| ≤ |value - f.magnitude code|
  even : ∀ code, code ≠ x.code → |value - f.magnitude code| = |value - f.magnitude x.code| →
    x.code % 2 = 0

theorem isNearest_of_nearest (fraction : 0 < f.fractionBits) (finite : x.IsFinite)
    (reads : d.nearest f = x.code) : x.IsNearest d.value := by
  have bounded : d.nearest f < f.infinity := reads.trans_lt finite
  refine ⟨finite, fun code => ?_, fun code other tie => ?_⟩
  · rw [d.value_eq_div, ← reads]
    exact BinaryFormat.abs_sub_nearest_le d.denominator_pos bounded code
  · rw [d.value_eq_div, ← reads] at tie
    rw [← reads] at other ⊢
    exact BinaryFormat.nearest_even_of_tie fraction d.denominator_pos bounded other tie

namespace IsNearest

variable {value : ℚ}

theorem le_middle (h : x.IsNearest value) : value ≤ f.middle x.code := by
  have twice := f.two_mul_middle x.code
  have next : f.magnitude x.code < f.magnitude (x.code + 1) := magnitude_strictMono (by omega)
  have middle := le_middle_of_nearer next (h.nearest (x.code + 1))
  linarith

theorem middle_le (h : x.IsNearest value) {before : Nat} (code : x.code = before + 1) :
    f.middle before ≤ value := by
  have twice := f.two_mul_middle before
  have next : f.magnitude before < f.magnitude (before + 1) := magnitude_strictMono (by omega)
  have nearer := h.nearest before
  rw [code, abs_sub_comm, abs_sub_comm value] at nearer
  have middle := le_middle_of_nearer (x := -value) (neg_lt_neg next)
    (by rwa [neg_sub_neg, neg_sub_neg])
  linarith

/-- On a middle both codes around it are as near, so the code of a nearest number is even there. -/
theorem even_of_middle (h : x.IsNearest value) {below : Nat} (middle : value = f.middle below)
    (beside : x.code = below ∨ x.code = below + 1) : x.code % 2 = 0 := by
  have twice := f.two_mul_middle below
  have low := f.magnitude_lt_middle below
  have high := f.middle_lt_magnitude_succ below
  have tie : |value - f.magnitude below| = |value - f.magnitude (below + 1)| := by
    rw [middle, abs_of_pos (by linarith), abs_of_neg (by linarith)]
    linarith
  rcases beside with own | own
  · exact h.even (below + 1) (by omega) (by rw [own, tie])
  · exact h.even below (by omega) (by rw [own, tie])

/-- A decimal is rounded to the code of its nearest number. -/
theorem nearest_eq (fraction : 0 < f.fractionBits) (h : x.IsNearest d.value) :
    d.nearest f = x.code := by
  have positive := d.denominator_pos
  have quotient := d.value_eq_div
  have finite : x.code < f.infinity := h.finite
  -- A decimal with another code is on a middle beside the nearest number, whose code is even there.
  have onMiddle {below : Nat} (bounded : below < f.infinity) (middle : d.value = f.middle below)
      (beside : x.code = below ∨ x.code = below + 1) : d.nearest f = x.code := by
    have tie := quotient.symm.trans middle
    have even := h.even_of_middle middle beside
    have rounded : d.nearest f % 2 = 0 := BinaryFormat.nearest_even fraction positive tie
    have around : d.nearest f = below ∨ d.nearest f = below + 1 :=
      BinaryFormat.nearest_of_middle positive bounded tie
    omega
  rcases Nat.lt_trichotomy (d.nearest f) x.code with less | same | greater
  · obtain ⟨before, code⟩ := Nat.exists_eq_succ_of_ne_zero (Nat.ne_zero_of_lt less)
    have below : d.value ≤ f.middle before :=
      calc d.value = d.numerator / d.denominator := quotient
        _ ≤ f.middle (d.nearest f) := le_middle_nearest positive (less.trans finite)
        _ ≤ f.middle before := middle_strictMono.monotone (by omega)
    exact onMiddle (by omega) (le_antisymm below (h.middle_le code)) (.inr code)
  · exact same
  · obtain ⟨before, rounded⟩ := Nat.exists_eq_succ_of_ne_zero (Nat.ne_zero_of_lt greater)
    have above : f.middle x.code ≤ d.value :=
      calc f.middle x.code ≤ f.middle before := middle_strictMono.monotone (by omega)
        _ ≤ d.numerator / d.denominator := middle_le_of_nearest positive rounded
        _ = d.value := quotient.symm
    exact onMiddle finite (le_antisymm h.le_middle above) (.inl rfl)

end IsNearest

end IsNearest

end BinaryFloat

end SqlAssembly.Numeric
