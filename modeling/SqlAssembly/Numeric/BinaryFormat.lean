import SqlAssembly.Numeric.Power
import SqlAssembly.Numeric.Rounding

/-!
# Binary floating-point formats

A format is fixed by the widths of its two fields. Its magnitudes are numbered in ascending
order: the code of a magnitude is the bit pattern without the sign, so counting up from zero
walks through the subnormal numbers, every binade in turn, infinity, and then the codes that
stand for no number at all. Rounding to a format is rounding one quotient to a whole number of
units, and the carry into the next binade is plain addition.
-/

namespace SqlAssembly.Numeric

/-- Widths of the two fields of a binary interchange format. -/
structure BinaryFormat where
  fractionBits : Nat
  exponentBits : Nat

namespace BinaryFormat

def double : BinaryFormat := ⟨52, 11⟩

def single : BinaryFormat := ⟨23, 8⟩

/-- The code of infinity: all exponent bits set, no fraction. -/
def infinity (f : BinaryFormat) : Nat := (twoPow f.exponentBits - 1) * twoPow f.fractionBits

/-- The number of codes, those that stand for no number included. -/
def codeCount (f : BinaryFormat) : Nat := twoPow (f.exponentBits + f.fractionBits)

/-- The least positive magnitude is `1 / 2 ^ scale`. -/
def scale (f : BinaryFormat) : Nat := twoPow (f.exponentBits - 1) - 2 + f.fractionBits

/-- How many binades the code lies above the lowest one; the subnormal codes share the lowest. -/
def binade (f : BinaryFormat) (code : Nat) : Nat := code / twoPow f.fractionBits - 1

/-- The whole number that the code's fraction stands for; in a normal code the leading bit is
implied. -/
def significand (f : BinaryFormat) (code : Nat) : Nat :=
  if code < twoPow f.fractionBits then code
  else code % twoPow f.fractionBits + twoPow f.fractionBits

/-- The magnitude of a code below infinity is `f.units code / 2 ^ f.scale`. -/
def units (f : BinaryFormat) (code : Nat) : Nat := f.significand code * twoPow (f.binade code)

/-- The code whose magnitude is nearest to `num / den`, ties to the even code; what lies too far
beyond the greatest finite magnitude becomes infinity. -/
def nearest (f : BinaryFormat) (num den : Nat) : Nat :=
  let scaled := num * twoPow f.scale
  let binade := (scaled / den).log2 - f.fractionBits
  min f.infinity (binade * twoPow f.fractionBits + roundDiv scaled (den * twoPow binade))

def recode (f g : BinaryFormat) (code : Nat) : Nat := g.nearest (f.units code) (twoPow f.scale)

theorem nearest_le_infinity (f : BinaryFormat) (num den : Nat) :
    f.nearest num den ≤ f.infinity := Nat.min_le_left _ _

theorem infinity_lt_codeCount (f : BinaryFormat) : f.infinity < f.codeCount := by
  rw [infinity, codeCount, twoPow_add, Nat.sub_mul]
  have units : 0 < twoPow f.fractionBits := twoPow_pos _
  have all : 0 < twoPow f.exponentBits * twoPow f.fractionBits :=
    Nat.mul_pos (twoPow_pos _) units
  omega

theorem nearest_lt_codeCount (f : BinaryFormat) (num den : Nat) :
    f.nearest num den < f.codeCount :=
  Nat.lt_of_le_of_lt (f.nearest_le_infinity num den) f.infinity_lt_codeCount

end BinaryFormat

end SqlAssembly.Numeric
