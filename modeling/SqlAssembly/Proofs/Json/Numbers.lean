import SqlAssembly.Proofs.Json.Numerals
import SqlAssembly.Proofs.Numeric.NearestEven

/-!
# Numbers of JSON

Every number is written as the text of a numeral that stands for it, so it is read back as itself
if numerals are rounded to nearest (`Number.readNumber_write`). An integer is written without point
and exponent and a double never is, so neither is taken for the other; a double is read back to the
last bit, because it is the nearest to the decimal that it is written as.
-/

namespace SqlAssembly

open Numeric

/-! ## Numerals of decimals -/

namespace Json.Numeral

def ofNat (negative : Bool) (n : Nat) : Numeral := ⟨negative, Nat.toDigits 10 n, none, none⟩

/-- Digits around a point, at least one of them behind it. -/
def positional (negative : Bool) (d : Decimal) : Numeral :=
  let places := (-d.exponent).toNat
  if places = 0 then
    ⟨negative, d.digits ++ List.replicate d.exponent.toNat '0', some ['0'], none⟩
  else if places < d.digits.length then
    ⟨negative, d.digits.take (d.digits.length - places),
      some (d.digits.drop (d.digits.length - places)), none⟩
  else
    ⟨negative, ['0'], some (List.replicate (places - d.digits.length) '0' ++ d.digits), none⟩

/-- One digit before the point, and a power of ten. -/
def scientific (negative : Bool) (d : Decimal) : Numeral where
  negative := negative
  whole := d.digits.take 1
  fraction := if d.digits.drop 1 = [] then none else some (d.digits.drop 1)
  exponent := some (d.leadingExponent < 0, Nat.toDigits 10 d.leadingExponent.natAbs)

def ofDouble (x : Double) : Numeral :=
  if x.code = 0 then ⟨x.negative, ['0'], some ['0'], none⟩
  else
    let d := Decimal.shortest .double .even x.code
    if -5 ≤ d.leadingExponent ∧ d.leadingExponent ≤ 15 then positional x.negative d
    else scientific x.negative d

/-! ## Their texts -/

theorem write_ofNat (negative : Bool) (n : Nat) :
    (ofNat negative n).write = (if negative then ['-'] else []) ++ Nat.toDigits 10 n := by
  cases negative <;> simp [ofNat, write, unsignedText, fractionText, exponentText]

theorem negative_positional (negative : Bool) (d : Decimal) :
    (positional negative d).negative = negative := by
  rw [positional]
  split
  · rfl
  · split <;> rfl

theorem negative_ofDouble (x : Double) : (ofDouble x).negative = x.negative := by
  simp only [ofDouble]
  split
  · rfl
  · split
    · exact negative_positional _ _
    · rfl

theorem unsignedText_positional (negative : Bool) (d : Decimal) :
    (positional negative d).unsignedText =
      d.positional ++ if 0 ≤ d.exponent then ".0".toList else [] := by
  rw [positional, Decimal.positional]
  by_cases whole : (-d.exponent).toNat = 0
  · have sign : 0 ≤ d.exponent := by omega
    simp [whole, sign, unsignedText, fractionText, exponentText]
  · have sign : ¬ 0 ≤ d.exponent := by omega
    by_cases inside : (-d.exponent).toNat < d.digits.length
    · simp [whole, sign, inside, unsignedText, fractionText, exponentText]
    · simp [whole, sign, inside, unsignedText, fractionText, exponentText]

theorem unsignedText_scientific (negative : Bool) (d : Decimal) :
    (scientific negative d).unsignedText = d.scientific := by
  have digits : d.digits ≠ [] := Nat.toDigits_ne_nil
  rw [scientific, Decimal.scientific]
  cases h : d.digits with
  | nil => exact absurd h digits
  | cons lead others =>
      cases others <;> simp [unsignedText, fractionText, exponentText]

theorem write_ofDouble (x : Double) : (ofDouble x).write = writeFinite x := by
  rw [ofDouble, writeFinite, BinaryFloat.signText]
  by_cases zero : x.code = 0
  · simp [zero, write, unsignedText, fractionText, exponentText]
  · simp only [if_neg zero]
    split
    · rw [write, unsignedText_positional, negative_positional]
    · rw [write, unsignedText_scientific]
      rfl

/-! ## They are well-formed -/

theorem isDigits_replicate_append (n : Nat) {ds : List Char} (h : IsDigits ds) :
    IsDigits (List.replicate n '0' ++ ds) := by
  constructor
  · intro none
    exact h.1 (List.append_eq_nil_iff.mp none).2
  · intro c hc
    rcases List.mem_append.mp hc with hc | hc
    · rw [List.eq_of_mem_replicate hc]
      rfl
    · exact h.2 c hc

theorem isDigits_take {ds : List Char} (h : IsDigits ds) {n : Nat} (some : 0 < n) :
    IsDigits (ds.take n) := by
  constructor
  · rw [Ne, List.take_eq_nil_iff, not_or]
    exact ⟨by omega, h.1⟩
  · intro c hc
    exact h.2 c (List.mem_of_mem_take hc)

theorem isDigits_drop {ds : List Char} (h : IsDigits ds) {n : Nat} (left : n < ds.length) :
    IsDigits (ds.drop n) := by
  constructor
  · rw [Ne, List.drop_eq_nil_iff]
    omega
  · intro c hc
    exact h.2 c (List.mem_of_mem_drop hc)

theorem isDigits_zero : IsDigits ['0'] := by
  constructor
  · simp
  · intro c hc
    rw [List.mem_singleton.mp hc]
    rfl

theorem head?_take {ds : List Char} {n : Nat} (some : 0 < n) : (ds.take n).head? = ds.head? := by
  cases n with
  | zero => omega
  | succ n => cases ds <;> rfl

theorem wellFormed_ofNat (negative : Bool) (n : Nat) : (ofNat negative n).WellFormed where
  whole := isDigits_toDigits n
  lead := by
    by_cases zero : n = 0
    · left
      rw [ofNat, zero]
      rfl
    · exact .inr (head?_toDigits (by omega))
  fraction := nofun
  exponent := nofun

theorem wellFormed_positional (negative : Bool) {d : Decimal} (positive : 0 < d.coefficient) :
    (positional negative d).WellFormed := by
  have digits : IsDigits d.digits := isDigits_toDigits _
  have lead : d.digits.head? ≠ some '0' := head?_toDigits positive
  obtain ⟨first, others, start⟩ := List.exists_cons_of_ne_nil digits.1
  rw [positional]
  split
  · refine ⟨digits.append fun c hc => ?_, .inr ?_, fun ds h => ?_, nofun⟩
    · rw [List.eq_of_mem_replicate hc]
      rfl
    · rw [start] at lead ⊢
      exact lead
    · cases h
      exact isDigits_zero
  · split
    · refine ⟨isDigits_take digits (by omega), .inr ?_, fun ds h => ?_, nofun⟩
      · rw [head?_take (by omega)]
        exact lead
      · cases h
        exact isDigits_drop digits (by omega)
    · refine ⟨isDigits_zero, .inl rfl, fun ds h => ?_, nofun⟩
      cases h
      exact isDigits_replicate_append _ digits

theorem wellFormed_scientific (negative : Bool) {d : Decimal} (positive : 0 < d.coefficient) :
    (scientific negative d).WellFormed := by
  have digits : IsDigits d.digits := isDigits_toDigits _
  refine ⟨isDigits_take digits (by omega), .inr ?_, fun ds h => ?_, fun sign ds h => ?_⟩
  · rw [scientific, head?_take (by omega)]
    exact head?_toDigits positive
  · simp only [scientific] at h
    split at h
    · cases h
    · rename_i others
      cases h
      rw [List.drop_eq_nil_iff] at others
      exact isDigits_drop digits (by omega)
  · cases h
    exact isDigits_toDigits _

/-! ## They stand for the decimals -/

theorem digitsValue_digits (d : Decimal) : digitsValue d.digits = d.coefficient :=
  digitsValue_toDigits _

/-- With decimal places the digits are only cut in two, or filled up with zeros in front. -/
theorem magnitude_positional (negative : Bool) {d : Decimal} (places : d.exponent < 0) :
    (positional negative d).magnitude = d := by
  have some : (-d.exponent).toNat ≠ 0 := by omega
  rw [positional, if_neg some]
  split
  · rename_i inside
    have length : (d.digits.drop (d.digits.length - (-d.exponent).toNat)).length =
        (-d.exponent).toNat := by
      rw [List.length_drop]
      omega
    simp only [magnitude, Option.getD_some, List.take_append_drop, digitsValue_digits, length]
    rw [show 0 - ((-d.exponent).toNat : Int) = d.exponent by omega]
  · rename_i outside
    have length : (List.replicate ((-d.exponent).toNat - d.digits.length) '0' ++
        d.digits).length = (-d.exponent).toNat := by
      rw [List.length_append, List.length_replicate]
      omega
    have zeros : ['0'] ++ (List.replicate ((-d.exponent).toNat - d.digits.length) '0' ++
        d.digits) = List.replicate ((-d.exponent).toNat - d.digits.length + 1) '0' ++ d.digits := by
      simp [List.replicate_succ]
    simp only [magnitude, Option.getD_some, zeros, digitsValue_replicate_append,
      digitsValue_digits, length]
    rw [show 0 - ((-d.exponent).toNat : Int) = d.exponent by omega]

/-- A whole number is written with one more zero, which is a decimal place. -/
theorem nearest_magnitude_positional (f : BinaryFormat) (negative : Bool) (d : Decimal) :
    (positional negative d).magnitude.nearest f = d.nearest f := by
  by_cases places : d.exponent < 0
  · rw [magnitude_positional negative places]
  · have none : (-d.exponent).toNat = 0 := by omega
    have zeros : d.digits ++ List.replicate d.exponent.toNat '0' ++ ['0'] =
        d.digits ++ List.replicate (d.exponent.toNat + 1) '0' := by
      rw [List.replicate_succ', List.append_assoc]
    have tenths : (positional negative d).magnitude =
        ⟨d.coefficient * tenPow (d.exponent.toNat + 1), -1⟩ := by
      rw [positional, if_pos none]
      simp only [magnitude, Option.getD_some, zeros, digitsValue_append_replicate,
        digitsValue_digits]
      rfl
    apply Decimal.nearest_congr
    rw [tenths, Decimal.numerator, Decimal.denominator, Decimal.numerator, Decimal.denominator,
      none, tenPow_add, ← Nat.mul_assoc]
    change d.coefficient * tenPow d.exponent.toNat * tenPow 1 * 1 * 1 =
      d.coefficient * tenPow d.exponent.toNat * tenPow 1
    rw [Nat.mul_one, Nat.mul_one]

def exponentValue : Option (Bool × List Char) → Int
  | none => 0
  | some (true, ds) => -(digitsValue ds : Int)
  | some (false, ds) => digitsValue ds

theorem magnitude_eq (t : Numeral) :
    t.magnitude = ⟨digitsValue (t.whole ++ t.fraction.getD []),
      exponentValue t.exponent - (t.fraction.getD []).length⟩ := rfl

theorem exponentValue_signed (e : Int) :
    exponentValue (some (e < 0, Nat.toDigits 10 e.natAbs)) = e := by
  by_cases below : e < 0
  · rw [decide_eq_true below, exponentValue, digitsValue_toDigits]
    omega
  · rw [decide_eq_false below, exponentValue, digitsValue_toDigits]
    omega

theorem magnitude_scientific (negative : Bool) (d : Decimal) :
    (scientific negative d).magnitude = d := by
  have digits : d.digits ≠ [] := Nat.toDigits_ne_nil
  have fraction : (scientific negative d).fraction.getD [] = d.digits.drop 1 := by
    simp only [scientific]
    split
    · rename_i none
      rw [none]
      rfl
    · rfl
  have exponent : exponentValue (scientific negative d).exponent = d.leadingExponent :=
    exponentValue_signed _
  have whole : (scientific negative d).whole ++ d.digits.drop 1 = d.digits :=
    List.take_append_drop 1 d.digits
  have length : ((d.digits.drop 1).length : Int) = d.digits.length - 1 := by
    have positive := List.length_pos_iff.mpr digits
    rw [List.length_drop]
    omega
  rw [magnitude_eq, fraction, exponent, whole, digitsValue_digits, length,
    Decimal.leadingExponent]
  rw [show (d.digits.length + d.exponent - 1 - (d.digits.length - 1) : Int) = d.exponent by omega]

theorem nearest_magnitude_ofDouble {x : Double} (finite : x.IsFinite) :
    (ofDouble x).magnitude.nearest .double = x.code := by
  simp only [ofDouble]
  split
  · rename_i zero
    rw [zero]
    exact Decimal.nearest_eq_zero_of_coefficient _ rfl
  · have read := Decimal.nearest_shortest .even finite
    split
    · rw [nearest_magnitude_positional, read]
    · rw [magnitude_scientific, read]

theorem wellFormed_ofDouble {x : Double} (finite : x.IsFinite) : (ofDouble x).WellFormed := by
  simp only [ofDouble]
  split
  · exact ⟨isDigits_zero, .inl rfl, fun ds h => by cases h; exact isDigits_zero, nofun⟩
  · rename_i nonzero
    have positive := Decimal.coefficient_shortest_pos .even finite nonzero
    split
    · exact wellFormed_positional _ positive
    · exact wellFormed_scientific _ positive

/-- A double shows a point or an exponent. -/
theorem not_isWhole_ofDouble (x : Double) : ¬ (ofDouble x).IsWhole := by
  have positional (d : Decimal) : ¬ (positional x.negative d).IsWhole := by
    rw [positional]
    split
    · exact fun h => nomatch h.1
    · split
      · exact fun h => nomatch h.1
      · exact fun h => nomatch h.1
  simp only [ofDouble]
  split
  · exact fun h => nomatch h.1
  · split
    · exact positional _
    · exact fun h => nomatch h.2

end Json.Numeral

/-! ## Correct rounding -/

namespace Json

/-- A numeral is rounded to its nearest double, and to the even one of two. -/
def Rounding.IsCorrect (round : Rounding) : Prop :=
  ∀ (t : Numeral) (x : Double), t.WellFormed → x.negative = t.negative →
    x.IsNearest t.magnitude.value → round t = some x

theorem Rounding.isCorrect_nearest : Rounding.nearest.IsCorrect := by
  intro t x _ negative near
  have code : t.magnitude.read .double = x.code := by
    rw [Decimal.read_eq_nearest, near.nearest_eq (by decide)]
  have finite : x.code < BinaryFormat.double.infinity := near.finite
  simp only [nearest, code, dif_pos finite]
  exact congrArg some (BinaryFloat.eq_of_negative_of_code negative.symm rfl)

/-- What is written for a double is rounded to it. -/
theorem Rounding.IsCorrect.ofDouble {round : Rounding} (correct : round.IsCorrect) {x : Double}
    (finite : x.IsFinite) : round (Numeral.ofDouble x) = some x := by
  have reads := Numeral.nearest_magnitude_ofDouble finite
  refine correct _ x (Numeral.wellFormed_ofDouble finite) (Numeral.negative_ofDouble x).symm ?_
  exact BinaryFloat.isNearest_of_nearest (by decide) finite reads

end Json

/-! ## Numbers -/

namespace Json.Number

open Json.Numeral

/-- The number is written in the one way that its kind has: a whole number without a minus is
not below zero, and a double is finite. -/
def IsProper : Number → Prop
  | .whole _ => True
  | .below n => n < 0
  | .real x => x.IsFinite

/-- The numeral that the number is written as. -/
def numeral : Number → Numeral
  | .whole n => ofNat false n.toNat
  | .below n => ofNat true n.toInt.natAbs
  | .real x => ofDouble x

theorem toInt_neg_of_lt {n : Int64} (h : n < 0) : n.toInt < 0 := Int64.lt_iff_toInt_lt.mp h

theorem write_numeral {n : Number} (proper : n.IsProper) : n.numeral.write = n.write := by
  cases n with
  | whole n =>
      rw [numeral, write_ofNat, Number.write, Nat.toString_eq_repr, Nat.toList_repr]
      rfl
  | below n =>
      have negative := toInt_neg_of_lt proper
      have magnitude : (-n.toInt).toNat = n.toInt.natAbs := by omega
      have below : ¬ 0 ≤ n.toInt := by omega
      rw [numeral, write_ofNat, Number.write, Int.toString_eq_repr, Int.repr_eq_if,
        if_neg below, String.toList_append, Nat.toList_repr, magnitude]
      rfl
  | real x =>
      have finite : x.IsFinite := proper
      rw [numeral, write_ofDouble, Number.write, if_pos finite]

theorem wellFormed_numeral {n : Number} (proper : n.IsProper) : n.numeral.WellFormed := by
  cases n with
  | whole n => exact wellFormed_ofNat _ _
  | below n => exact wellFormed_ofNat _ _
  | real x => exact wellFormed_ofDouble proper

variable {round : Rounding} (correct : round.IsCorrect)

include correct

theorem toNumber_numeral {n : Number} (proper : n.IsProper) :
    n.numeral.toNumber round = some n := by
  cases n with
  | whole n =>
      have value : digitsValue (Nat.toDigits 10 n.toNat) = n.toNat := digitsValue_toDigits _
      have whole : (ofNat false n.toNat).IsWhole := ⟨rfl, rfl⟩
      have fits : digitsValue (ofNat false n.toNat).whole < UInt64.size := by
        rw [ofNat, value]
        exact n.toNat_lt
      have positive : (ofNat false n.toNat).negative = false := rfl
      rw [numeral, toNumber, if_pos ⟨whole, fits⟩, if_pos positive, ofNat, value,
        UInt64.ofNat_toNat]
  | below n =>
      have negative := toInt_neg_of_lt proper
      have value : digitsValue (ofNat true n.toInt.natAbs).whole = n.toInt.natAbs :=
        digitsValue_toDigits _
      have whole : (ofNat true n.toInt.natAbs).IsWhole := ⟨rfl, rfl⟩
      have least : Int64.minValue.toInt ≤ n.toInt := n.minValue_le_toInt
      have magnitude : -(n.toInt.natAbs : Int) = n.toInt := by omega
      have fits : n.toInt.natAbs < UInt64.size := by
        have bound : Int64.minValue.toInt = -9223372036854775808 := by decide
        have size : UInt64.size = 18446744073709551616 := rfl
        omega
      rw [numeral, toNumber, value, if_pos ⟨whole, fits⟩, if_neg nofun, magnitude,
        if_pos ⟨by omega, least⟩, Int64.ofInt_toInt]
  | real x =>
      have inexact := not_isWhole_ofDouble x
      rw [numeral, toNumber, if_neg (fun h => inexact h.1), correct.ofDouble proper]
      rfl

/-- A number is read back, whatever comes behind its text. -/
theorem readNumber_write {n : Number} (proper : n.IsProper) {rest : List Char}
    (stop : Ends rest) : readNumber round (n.write ++ rest) = some (n, rest) := by
  rw [← write_numeral proper, readNumber, readNumeral_write (wellFormed_numeral proper) stop]
  simp only [Option.bind_eq_bind, Option.bind_some, toNumber_numeral correct proper]
  rfl

end Json.Number

end SqlAssembly
