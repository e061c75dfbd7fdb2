import SqlAssembly.Numeric.DecimalText

/-!
# Floating-point numbers

A number of a binary format is a sign and the code of a magnitude, so two numbers are equal here
exactly if their bits are. The comparison of the arithmetic standard, which makes both zeros
equal and a code without a number different even from itself, is a relation of its own.
-/

namespace SqlAssembly.Numeric

/-- A number of the format, infinities and codes without a number included. -/
structure BinaryFloat (f : BinaryFormat) where
  negative : Bool
  code : Nat
  code_lt : code < f.codeCount
deriving DecidableEq

/-- The type of PostgreSQL's `double precision`. -/
abbrev Double := BinaryFloat .double

/-- The type of PostgreSQL's `real`. -/
abbrev Single := BinaryFloat .single

namespace BinaryFloat

variable {f g : BinaryFormat}

def IsNaN (x : BinaryFloat f) : Prop := f.infinity < x.code

def IsFinite (x : BinaryFloat f) : Prop := x.code < f.infinity

instance (x : BinaryFloat f) : Decidable x.IsNaN := inferInstanceAs (Decidable (_ < _))

instance (x : BinaryFloat f) : Decidable x.IsFinite := inferInstanceAs (Decidable (_ < _))

/-! ## Bits -/

/-- The bit pattern: the sign is the highest bit. -/
def bits (x : BinaryFloat f) : Nat := (if x.negative then f.codeCount else 0) + x.code

/-- The number with the given bit pattern; bits above the sign are dropped. -/
def ofBits (f : BinaryFormat) (bits : Nat) : BinaryFloat f where
  negative := bits / f.codeCount % 2 = 1
  code := bits % f.codeCount
  code_lt := Nat.mod_lt _ (twoPow_pos _)

def ofDecimal (f : BinaryFormat) (negative : Bool) (d : Decimal) : BinaryFloat f where
  negative := negative
  code := d.nearest f
  code_lt := f.nearest_lt_codeCount _ _

def neg (x : BinaryFloat f) : BinaryFloat f := ⟨!x.negative, x.code, x.code_lt⟩

def ofInt (f : BinaryFormat) (n : Int) : BinaryFloat f where
  negative := n < 0
  code := f.nearest n.natAbs 1
  code_lt := f.nearest_lt_codeCount _ _

/-! ## Comparison -/

/-- Equality of the arithmetic standard: zeros are equal whatever their signs, and what is no
number equals nothing. -/
def NumericEq (x y : BinaryFloat f) : Prop :=
  ¬ x.IsNaN ∧ ¬ y.IsNaN ∧ x.code = y.code ∧ (x.negative = y.negative ∨ x.code = 0)

instance (x y : BinaryFloat f) : Decidable (x.NumericEq y) :=
  inferInstanceAs (Decidable (_ ∧ _ ∧ _ ∧ _))

/-! ## Texts -/

def signText (x : BinaryFloat f) : List Char := if x.negative then ['-'] else []

/-- The shortest decimal in plain layout, a tie going upward. A zero keeps its sign; what is no
number has none. -/
def display (x : BinaryFloat f) : String :=
  String.ofList <|
    if x.IsNaN then "NaN".toList
    else if x.IsFinite then
      x.signText ++
        (if x.code = 0 then ['0'] else (Decimal.shortest f .up x.code).positional)
    else x.signText ++ "inf".toList

/-! ## Conversion between formats -/

/-- The same value in another format, rounded to nearest with ties to even. What is no number
keeps its sign and the leading bits of its fraction, and its highest fraction bit is set. -/
def convert (g : BinaryFormat) (x : BinaryFloat f) : BinaryFloat g :=
  if x.IsNaN then
    let payload := x.code % twoPow f.fractionBits / twoPow (f.fractionBits - g.fractionBits)
    let fraction := (payload ||| twoPow (g.fractionBits - 1)) % twoPow g.fractionBits
    ofBits g ((if x.negative then g.codeCount else 0) + (g.infinity + fraction))
  else if x.IsFinite then
    { negative := x.negative
      code := f.recode g x.code
      code_lt := g.nearest_lt_codeCount _ _ }
  else
    { negative := x.negative, code := g.infinity, code_lt := g.infinity_lt_codeCount }

/-- The code without a number that a text naming none is read as: positive, only the highest
fraction bit set. -/
def nan (f : BinaryFormat) : BinaryFloat f :=
  ofBits f (f.infinity + twoPow (f.fractionBits - 1))

/-- The number of another format whose value is nearest to this number's shortest decimal, so
that a number written with few digits keeps them. -/
def widen (g : BinaryFormat) (x : BinaryFloat f) : BinaryFloat g :=
  if x.IsNaN then nan g
  else if x.IsFinite then
    if x.code = 0 then { negative := x.negative, code := 0, code_lt := twoPow_pos _ }
    else ofDecimal g x.negative (Decimal.shortest f .up x.code)
  else
    { negative := x.negative, code := g.infinity, code_lt := g.infinity_lt_codeCount }

end BinaryFloat

end SqlAssembly.Numeric
