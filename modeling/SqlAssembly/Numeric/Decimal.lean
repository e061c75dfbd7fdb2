import SqlAssembly.Numeric.BinaryFormat

/-!
# Decimals

A decimal is a whole number of powers of ten. Reading one into a binary format is one rounding
of the exact quotient; the shortest decimal of a code is the one with the fewest digits among
all that read back as that code.
-/

namespace SqlAssembly.Numeric

/-- The number `coefficient * 10 ^ exponent`. -/
structure Decimal where
  coefficient : Nat
  exponent : Int
deriving DecidableEq

/-- Where the middle between two equally short decimals goes. -/
inductive Tie where
  | up
  | even
deriving DecidableEq

namespace Decimal

def numerator (d : Decimal) : Nat := d.coefficient * tenPow d.exponent.toNat

def denominator (d : Decimal) : Nat := tenPow (-d.exponent).toNat

def nearest (f : BinaryFormat) (d : Decimal) : Nat := f.nearest d.numerator d.denominator

/-! ## Reading texts with any exponent

A text may state an exponent of any size. Ten is more than eight, so an exponent of a third of
the format's own range already decides the outcome, and no large power is ever computed. -/

/-- The decimal lies beyond every finite magnitude because of its exponent alone. -/
def exceeds (f : BinaryFormat) (d : Decimal) : Prop :=
  (twoPow f.exponentBits : Int) ≤ 3 * d.exponent

/-- The decimal lies below half of the least magnitude because of its exponent alone. -/
def vanishes (f : BinaryFormat) (d : Decimal) : Prop :=
  (d.coefficient.log2 : Int) + f.scale + 2 ≤ -3 * d.exponent

instance (f : BinaryFormat) (d : Decimal) : Decidable (d.exceeds f) :=
  inferInstanceAs (Decidable (_ ≤ _))

instance (f : BinaryFormat) (d : Decimal) : Decidable (d.vanishes f) :=
  inferInstanceAs (Decidable (_ ≤ _))

/-- The code nearest to the decimal, found without computing a power of ten that cannot
matter. -/
def read (f : BinaryFormat) (d : Decimal) : Nat :=
  if d.coefficient = 0 then 0
  else if d.exceeds f then f.infinity
  else if d.vanishes f then 0
  else d.nearest f

/-! ## The shortest decimal -/

/-- The magnitude of a code below infinity, to the last digit: a denominator of so many factors
two takes as many decimal places. -/
def exact (f : BinaryFormat) (code : Nat) : Decimal :=
  let places := f.scale - f.binade code
  ⟨f.units code * tenPow places / twoPow f.scale, -places⟩

/-- The decimal with its last `dropped` digits cut off. -/
def below (d : Decimal) (dropped : Nat) : Decimal :=
  ⟨d.coefficient / tenPow dropped, d.exponent + dropped⟩

/-- The next decimal above the cut one with as few places. -/
def above (d : Decimal) (dropped : Nat) : Decimal :=
  ⟨d.coefficient / tenPow dropped + 1, d.exponent + dropped⟩

/-- Whether the decimal above is nearer than the one below, by the size of what was cut off. -/
def isNearerAbove (d : Decimal) (tie : Tie) (dropped : Nat) : Bool :=
  let rest := d.coefficient % tenPow dropped
  if 2 * rest < tenPow dropped then false
  else if tenPow dropped < 2 * rest then true
  else match tie with
    | .up => true
    | .even => (d.below dropped).coefficient % 2 = 1

/-- A decimal without the last `dropped` digits that reads back as the code: the nearer of the
two around the exact one if both do. -/
def withoutDigits? (f : BinaryFormat) (tie : Tie) (code dropped : Nat) (d : Decimal) :
    Option Decimal :=
  if (d.below dropped).nearest f = code then
    if (d.above dropped).nearest f = code then
      if d.isNearerAbove tie dropped then some (d.above dropped) else some (d.below dropped)
    else some (d.below dropped)
  else if (d.above dropped).nearest f = code then some (d.above dropped)
  else none

/-- The first answer when ever fewer digits are dropped; the exact decimal if all have to
stay. -/
def dropDigits (f : BinaryFormat) (tie : Tie) (code : Nat) (d : Decimal) : Nat → Decimal
  | 0 => d
  | dropped + 1 =>
      match withoutDigits? f tie code (dropped + 1) d with
      | some shorter => shorter
      | none => dropDigits f tie code d dropped

/-- The shortest decimal that reads back as the code, of several such the nearest to the
magnitude, for a code below infinity. -/
def shortest (f : BinaryFormat) (tie : Tie) (code : Nat) : Decimal :=
  let d := exact f code
  dropDigits f tie code d (Nat.toDigits 10 d.coefficient).length

end Decimal

end SqlAssembly.Numeric
