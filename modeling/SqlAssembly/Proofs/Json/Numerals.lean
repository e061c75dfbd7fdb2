import Mathlib.Data.List.Basic
import SqlAssembly.Json.Reader
import SqlAssembly.Json.Writer
import SqlAssembly.Proofs.Numeric.Shortest

/-!
# Numerals of JSON

A numeral has a text of its own, part by part, and the reader gives the numeral back as long as
nothing after it could belong to a number (`Numeral.readNumeral_write`).
-/

namespace SqlAssembly.Json

open Numeric

/-! ## Digits -/

def IsDigits (ds : List Char) : Prop := ds ≠ [] ∧ ∀ c ∈ ds, c.isDigit = true

theorem IsDigits.append {ds es : List Char} (hd : IsDigits ds)
    (he : ∀ c ∈ es, c.isDigit = true) : IsDigits (ds ++ es) := by
  constructor
  · intro h
    exact hd.1 (List.append_eq_nil_iff.mp h).1
  · intro c hc
    rcases List.mem_append.mp hc with hc | hc
    · exact hd.2 c hc
    · exact he c hc

theorem isDigits_toDigits (n : Nat) : IsDigits (Nat.toDigits 10 n) :=
  ⟨Nat.toDigits_ne_nil, fun _ hc => Nat.isDigit_of_mem_toDigits (by decide) (by decide) hc⟩

/-- A positive number is written without a leading zero. -/
theorem head?_toDigits {n : Nat} (positive : 0 < n) : (Nat.toDigits 10 n).head? ≠ some '0' := by
  induction n using Nat.strongRecOn with
  | ind n ih =>
      by_cases small : n < 10
      · rw [Nat.toDigits_of_lt_base small]
        have digit : ∀ k < 10, 0 < k → [Nat.digitChar k].head? ≠ some '0' := by decide
        exact digit n small positive
      · have others := ih (n / 10) (by omega) (by omega)
        rw [Nat.toDigits_of_base_le (by decide) (by omega), List.head?_append]
        cases h : (Nat.toDigits 10 (n / 10)).head? with
        | none => exact absurd (List.head?_eq_none_iff.mp h) Nat.toDigits_ne_nil
        | some c =>
            rw [h] at others
            exact others

/-- No digit stands at the start. -/
def NoDigit (rest : List Char) : Prop := ∀ c ∈ rest.head?, c.isDigit = false

theorem readDigits_append {ds rest : List Char} (digits : IsDigits ds) (stop : NoDigit rest) :
    readDigits (ds ++ rest) = some (ds, rest) := by
  have none : rest.takeWhile Char.isDigit = [] ∧ rest.dropWhile Char.isDigit = rest := by
    cases rest with
    | nil => exact ⟨rfl, rfl⟩
    | cons c rest =>
        have first : c.isDigit = false := stop c rfl
        rw [List.takeWhile_cons, List.dropWhile_cons, first]
        exact ⟨rfl, rfl⟩
  have taken : (ds ++ rest).takeWhile Char.isDigit = ds := by
    rw [List.takeWhile_append_of_pos digits.2, none.1, List.append_nil]
  have dropped : (ds ++ rest).dropWhile Char.isDigit = rest := by
    rw [List.dropWhile_append_of_pos digits.2, none.2]
  rw [readDigits, taken, dropped]
  cases ds with
  | nil => exact absurd rfl digits.1
  | cons d ds => rfl

theorem digitsValue_replicate_append (n : Nat) (ds : List Char) :
    Numeral.digitsValue (List.replicate n '0' ++ ds) = Numeral.digitsValue ds := by
  rw [Numeral.digitsValue, Nat.ofDigitChars_append, Nat.ofDigitChars_replicate_zero, Nat.mul_zero]
  rfl

theorem digitsValue_append_replicate (ds : List Char) (n : Nat) :
    Numeral.digitsValue (ds ++ List.replicate n '0') = Numeral.digitsValue ds * tenPow n := by
  rw [Numeral.digitsValue, Nat.ofDigitChars_append, Nat.ofDigitChars_replicate_zero, Nat.mul_comm]
  rfl

theorem digitsValue_toDigits (n : Nat) : Numeral.digitsValue (Nat.toDigits 10 n) = n :=
  Nat.ofDigitChars_ten_toDigits

/-! ## Texts of numerals -/

namespace Numeral

def fractionText : Option (List Char) → List Char
  | none => []
  | some ds => '.' :: ds

/-- The sign of the exponent is always written. -/
def exponentText : Option (Bool × List Char) → List Char
  | none => []
  | some (negative, ds) => 'e' :: (if negative then '-' else '+') :: ds

def unsignedText (t : Numeral) : List Char :=
  t.whole ++ (fractionText t.fraction ++ exponentText t.exponent)

def write (t : Numeral) : List Char := (if t.negative then ['-'] else []) ++ t.unsignedText

/-- Every part has digits, and a leading zero stands alone. -/
structure WellFormed (t : Numeral) : Prop where
  whole : IsDigits t.whole
  lead : t.whole = ['0'] ∨ t.whole.head? ≠ some '0'
  fraction : ∀ ds, t.fraction = some ds → IsDigits ds
  exponent : ∀ negative ds, t.exponent = some (negative, ds) → IsDigits ds

/-- What follows a numeral does not belong to it. -/
def Ends (rest : List Char) : Prop :=
  ∀ c ∈ rest.head?, c.isDigit = false ∧ c ≠ '.' ∧ c ≠ 'e' ∧ c ≠ 'E'

theorem Ends.noDigit {rest : List Char} (h : Ends rest) : NoDigit rest := fun c hc => (h c hc).1

theorem ends_nil : Ends [] := nofun

theorem readExponent_write {rest : List Char} (stop : Ends rest)
    (e : Option (Bool × List Char)) (digits : ∀ negative ds, e = some (negative, ds) → IsDigits ds) :
    readExponent (exponentText e ++ rest) = some (e, rest) := by
  cases e with
  | none =>
      cases rest with
      | nil => rfl
      | cons c rest =>
          obtain ⟨_, _, lower, upper⟩ := stop c rfl
          simp [exponentText, readExponent, lower, upper]
  | some e =>
      obtain ⟨negative, ds⟩ := e
      have read := readDigits_append (digits negative ds rfl) stop.noDigit
      cases negative <;> simp [exponentText, readExponent, read]

theorem readFraction_write {rest : List Char} (fraction : Option (List Char))
    (digits : ∀ ds, fraction = some ds → IsDigits ds) (stop : NoDigit rest)
    (noPoint : rest.head? ≠ some '.') :
    readFraction (fractionText fraction ++ rest) = some (fraction, rest) := by
  cases fraction with
  | none =>
      cases rest with
      | nil => rfl
      | cons c rest =>
          have point : c ≠ '.' := by simpa using noPoint
          simp [fractionText, readFraction, point]
  | some ds =>
      have read := readDigits_append (digits ds rfl) stop
      simp [fractionText, readFraction, read]

theorem readWhole_write {whole rest : List Char} (digits : IsDigits whole)
    (lead : whole = ['0'] ∨ whole.head? ≠ some '0') (stop : NoDigit rest) :
    readWhole (whole ++ rest) = some (whole, rest) := by
  rw [readWhole, readDigits_append digits stop]
  split
  · rename_i c others _ h
    cases h
    rcases lead with lead | lead
    · cases lead
    · exact absurd rfl lead
  · rfl

/-- The parts behind the sign. -/
def readUnsigned (negative : Bool) (cs : List Char) : Option (Numeral × List Char) := do
  let (whole, cs) ← readWhole cs
  let (fraction, cs) ← readFraction cs
  let (exponent, cs) ← readExponent cs
  pure (⟨negative, whole, fraction, exponent⟩, cs)

theorem readNumeral_minus (cs : List Char) : readNumeral ('-' :: cs) = readUnsigned true cs := rfl

theorem readNumeral_of_ne {c : Char} (cs : List Char) (h : c ≠ '-') :
    readNumeral (c :: cs) = readUnsigned false (c :: cs) := by
  unfold readNumeral
  split
  · rename_i sign
    split at sign
    · rename_i start
      exact absurd (List.cons.inj start).1 h
    · cases sign
      rfl

theorem readNumeral_sign (negative : Bool) {cs : List Char} (digit : ∃ d ds, cs = d :: ds ∧ d ≠ '-') :
    readNumeral ((if negative then ['-'] else []) ++ cs) = readUnsigned negative cs := by
  cases negative with
  | true => exact readNumeral_minus cs
  | false =>
      obtain ⟨d, ds, rfl, minus⟩ := digit
      exact readNumeral_of_ne ds minus

theorem WellFormed.unsignedText_start {t : Numeral} (h : t.WellFormed) (rest : List Char) :
    ∃ d ds, t.unsignedText ++ rest = d :: ds ∧ d.isDigit = true := by
  obtain ⟨d, ds, digits⟩ := List.exists_cons_of_ne_nil h.whole.1
  refine ⟨d, ds ++ (fractionText t.fraction ++ exponentText t.exponent) ++ rest, ?_, ?_⟩
  · rw [unsignedText, digits, List.cons_append, List.cons_append]
  · exact h.whole.2 d (by rw [digits]; exact List.mem_cons_self)

/-- A well-formed numeral is read back, whatever comes behind it. -/
theorem readNumeral_write {t : Numeral} (h : t.WellFormed) {rest : List Char} (stop : Ends rest) :
    readNumeral (t.write ++ rest) = some (t, rest) := by
  -- What stands behind each part begins with the mark of the next one or with `rest`.
  have behindFraction : NoDigit (exponentText t.exponent ++ rest) ∧
      (exponentText t.exponent ++ rest).head? ≠ some '.' := by
    cases t.exponent with
    | none =>
        refine ⟨stop.noDigit, fun point => ?_⟩
        exact (stop '.' point).2.1 rfl
    | some e => exact ⟨fun c hc => by cases hc; rfl, by simp [exponentText]⟩
  have behindWhole : NoDigit (fractionText t.fraction ++ (exponentText t.exponent ++ rest)) := by
    cases t.fraction with
    | none => exact behindFraction.1
    | some ds => exact fun c hc => by cases hc; rfl
  have whole := readWhole_write h.whole h.lead behindWhole
  have fraction := readFraction_write t.fraction h.fraction behindFraction.1 behindFraction.2
  have exponent := readExponent_write stop t.exponent h.exponent
  have start : ∃ d ds, t.unsignedText ++ rest = d :: ds ∧ d ≠ '-' := by
    obtain ⟨d, ds, text, digit⟩ := h.unsignedText_start rest
    exact ⟨d, ds, text, fun minus => absurd digit (by rw [minus]; decide)⟩
  rw [write, List.append_assoc, readNumeral_sign t.negative start, unsignedText, List.append_assoc,
    List.append_assoc, readUnsigned, whole]
  simp only [Option.bind_eq_bind, Option.bind_some, fraction, exponent]
  rfl

end Numeral

end SqlAssembly.Json
