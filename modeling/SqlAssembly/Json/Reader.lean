import SqlAssembly.Json.Document

/-!
# Reading JSON

The reader accepts a whole text that is one document, nested at most 127 deep, and refuses
everything else: characters after the document, leading zeros, escapes that name half of a
surrogate pair, numbers beyond every double. How a number is rounded to a double is left to the
caller and no part of the grammar. Each part of the reader takes characters and gives back what it
read together with the characters that follow.
-/

namespace SqlAssembly.Json

open Numeric

/-- What was read, and the characters after it. -/
abbrev Reading (α : Type) := Option (α × List Char)

def isSpace (c : Char) : Bool := c = ' ' || c = '\n' || c = '\t' || c = '\r'

def skipSpace (cs : List Char) : List Char := cs.dropWhile isSpace

/-! ## Numbers -/

/-- A number as it is written: the digits before the point, those after it if there is a point,
and the exponent with its sign if there is one. -/
structure Numeral where
  negative : Bool
  whole : List Char
  fraction : Option (List Char)
  exponent : Option (Bool × List Char)

def readDigits (cs : List Char) : Reading (List Char) :=
  match cs.takeWhile Char.isDigit with
  | [] => none
  | ds => some (ds, cs.dropWhile Char.isDigit)

/-- The digits before the point: a zero stands alone. -/
def readWhole (cs : List Char) : Reading (List Char) :=
  match readDigits cs with
  | some ('0' :: _ :: _, _) => none
  | r => r

def readFraction (cs : List Char) : Reading (Option (List Char)) :=
  match cs with
  | '.' :: rest => (readDigits rest).map fun (ds, rest) => (some ds, rest)
  | _ => some (none, cs)

/-- An exponent has a sign if it is not positive, and may have one if it is. -/
def readExponent (cs : List Char) : Reading (Option (Bool × List Char)) :=
  let digits (negative : Bool) (rest : List Char) : Reading (Option (Bool × List Char)) :=
    (readDigits rest).map fun (ds, rest) => (some (negative, ds), rest)
  let signed (rest : List Char) : Reading (Option (Bool × List Char)) :=
    match rest with
    | '-' :: rest => digits true rest
    | '+' :: rest => digits false rest
    | _ => digits false rest
  match cs with
  | 'e' :: rest => signed rest
  | 'E' :: rest => signed rest
  | _ => some (none, cs)

def readNumeral (cs : List Char) : Option (Numeral × List Char) := do
  let (negative, cs) := match cs with
    | '-' :: rest => (true, rest)
    | _ => (false, cs)
  let (whole, cs) ← readWhole cs
  let (fraction, cs) ← readFraction cs
  let (exponent, cs) ← readExponent cs
  pure (⟨negative, whole, fraction, exponent⟩, cs)

namespace Numeral

def digitsValue (ds : List Char) : Nat := Nat.ofDigitChars 10 ds 0

/-- The magnitude: all digits as one whole number, and the point and the exponent as a power of
ten. -/
def magnitude (t : Numeral) : Decimal :=
  let fraction := t.fraction.getD []
  let exponent : Int := match t.exponent with
    | none => 0
    | some (true, ds) => -(digitsValue ds : Int)
    | some (false, ds) => digitsValue ds
  ⟨digitsValue (t.whole ++ fraction), exponent - fraction.length⟩

def IsWhole (t : Numeral) : Prop := t.fraction = none ∧ t.exponent = none

instance (t : Numeral) : Decidable t.IsWhole := inferInstanceAs (Decidable (_ ∧ _))

end Numeral

/-- Gives a double for a number that needs rounding, or refuses the number. -/
abbrev Rounding := Numeral → Option Double

/-- The nearest double, unless that is infinite. -/
def Rounding.nearest : Rounding := fun t =>
  let code := t.magnitude.read .double
  if h : code < BinaryFormat.double.infinity then
    some ⟨t.negative, code, Nat.lt_trans h (BinaryFormat.infinity_lt_codeCount _)⟩
  else none

/-- A whole number whose digits fit into 64 bits stays exact, with a minus only if it fits into 64
bits with their sign. If it does not, and for `-0`, it is a double with its sign. Any other number
is rounded as the caller wants it. -/
def Numeral.toNumber (round : Rounding) (t : Numeral) : Option Number :=
  let n := digitsValue t.whole
  if t.IsWhole ∧ n < UInt64.size then
    if t.negative = false then some (.whole (UInt64.ofNat n))
    else if 0 < n ∧ Int64.minValue.toInt ≤ -n then some (.below (Int64.ofInt (-n)))
    else some (.real (BinaryFloat.ofInt .double n).neg)
  else (round t).map .real

def readNumber (round : Rounding) (cs : List Char) : Option (Number × List Char) := do
  let (numeral, rest) ← readNumeral cs
  let n ← numeral.toNumber round
  pure (n, rest)

/-! ## Texts -/

def hexDigit? (c : Char) : Option Nat :=
  if '0' ≤ c ∧ c ≤ '9' then some (c.toNat - '0'.toNat)
  else if 'a' ≤ c ∧ c ≤ 'f' then some (c.toNat - 'a'.toNat + 10)
  else if 'A' ≤ c ∧ c ≤ 'F' then some (c.toNat - 'A'.toNat + 10)
  else none

def hexUnit? (a b c d : Char) : Option Nat := do
  let a ← hexDigit? a
  let b ← hexDigit? b
  let c ← hexDigit? c
  let d ← hexDigit? d
  pure (((a * 16 + b) * 16 + c) * 16 + d)

def letterEscape? (c : Char) : Option Char :=
  match c with
  | '"' => some '"'
  | '\\' => some '\\'
  | '/' => some '/'
  | 'b' => some '\x08'
  | 'f' => some '\x0c'
  | 'n' => some '\n'
  | 'r' => some '\r'
  | 't' => some '\t'
  | _ => none

def IsHighSurrogate (unit : Nat) : Prop := 0xd800 ≤ unit ∧ unit < 0xdc00

def IsLowSurrogate (unit : Nat) : Prop := 0xdc00 ≤ unit ∧ unit < 0xe000

instance (unit : Nat) : Decidable (IsHighSurrogate unit) := inferInstanceAs (Decidable (_ ∧ _))

instance (unit : Nat) : Decidable (IsLowSurrogate unit) := inferInstanceAs (Decidable (_ ∧ _))

def pairChar (high low : Nat) : Char :=
  Char.ofNat (0x10000 + (high - 0xd800) * 0x400 + (low - 0xdc00))

/-- The characters up to the closing quote, which is read too. A surrogate counts only as the
first half of a pair whose other half is escaped right after it. -/
def readText : List Char → Reading (List Char)
  | [] => none
  | '"' :: rest => some ([], rest)
  | '\\' :: 'u' :: a :: b :: c :: d :: rest =>
      match hexUnit? a b c d with
      | none => none
      | some unit =>
          if IsHighSurrogate unit then
            match rest with
            | '\\' :: 'u' :: a :: b :: c :: d :: rest =>
                match hexUnit? a b c d with
                | none => none
                | some low =>
                    if IsLowSurrogate low then
                      (readText rest).map fun (cs, rest) => (pairChar unit low :: cs, rest)
                    else none
            | _ => none
          else if IsLowSurrogate unit then none
          else (readText rest).map fun (cs, rest) => (Char.ofNat unit :: cs, rest)
  | '\\' :: c :: rest =>
      match letterEscape? c with
      | none => none
      | some c => (readText rest).map fun (cs, rest) => (c :: cs, rest)
  | c :: rest =>
      if c < ' ' || c = '\\' then none
      else (readText rest).map fun (cs, rest) => (c :: cs, rest)

/-! ## Documents -/

def readWord (word : List Char) (value : Json) (cs : List Char) : Reading Json :=
  if word.isPrefixOf cs then some (value, cs.drop word.length) else none

section Documents

variable (round : Rounding)

mutual

/-- One document, nested at most `depth` deep. The first argument bounds the number of steps and
is never reached when it exceeds twice the number of characters. -/
def readValue : Nat → (depth : Nat) → List Char → Reading Json
  | 0, _, _ => none
  | steps + 1, depth, cs =>
      match skipSpace cs with
      | '"' :: rest => (readText rest).map fun (s, rest) => (.text (String.ofList s), rest)
      | '[' :: rest =>
          match depth with
          | 0 => none
          | depth + 1 =>
              match skipSpace rest with
              | ']' :: rest => some (.array [], rest)
              | rest => (readItems steps depth rest).map fun (xs, rest) => (.array xs, rest)
      | '\x7b' :: rest =>
          match depth with
          | 0 => none
          | depth + 1 =>
              match skipSpace rest with
              | '\x7d' :: rest => some (.object [], rest)
              | rest => (readFields steps depth rest).map fun (fs, rest) => (.object fs, rest)
      | 'n' :: rest => readWord "ull".toList .null rest
      | 't' :: rest => readWord "rue".toList (.bool true) rest
      | 'f' :: rest => readWord "alse".toList (.bool false) rest
      | cs => (readNumber round cs).map fun (n, rest) => (.number n, rest)

/-- At least one item, with commas between them, and the end of the array. -/
def readItems : Nat → (depth : Nat) → List Char → Reading (List Json)
  | 0, _, _ => none
  | steps + 1, depth, cs =>
      match readValue steps depth cs with
      | none => none
      | some (item, rest) =>
          match skipSpace rest with
          | ']' :: rest => some ([item], rest)
          | ',' :: rest =>
              (readItems steps depth rest).map fun (items, rest) => (item :: items, rest)
          | _ => none

def readFields : Nat → (depth : Nat) → List Char → Reading (List (String × Json))
  | 0, _, _ => none
  | steps + 1, depth, cs =>
      match skipSpace cs with
      | '"' :: rest =>
          match readText rest with
          | none => none
          | some (name, rest) =>
              match skipSpace rest with
              | ':' :: rest =>
                  match readValue steps depth rest with
                  | none => none
                  | some (value, rest) =>
                      match skipSpace rest with
                      | '\x7d' :: rest => some ([(String.ofList name, value)], rest)
                      | ',' :: rest =>
                          (readFields steps depth rest).map fun (fields, rest) =>
                            ((String.ofList name, value) :: fields, rest)
                      | _ => none
              | _ => none
      | _ => none

end

def maxDepth : Nat := 127

/-- The document at the start, whatever follows it. -/
def readFirst (cs : List Char) : Reading Json := readValue round (2 * cs.length + 1) maxDepth cs

end Documents

def read (text : String) (round : Rounding := .nearest) : Option Json :=
  match readFirst round text.toList with
  | some (document, rest) => if skipSpace rest = [] then some document else none
  | none => none

end SqlAssembly.Json
