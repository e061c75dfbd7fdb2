import SqlAssembly.Proofs.Json.Numbers
import SqlAssembly.Value.JsonText

/-!
# Scalars as texts of JSON

The text of a scalar is read as the document that was written, whatever follows it
(`Scalar.readValue_write`), and the document is read as the scalar. The texts of the kinds do not
meet: a text begins with a quote, a truth value with its word, an integer has no point and no
exponent, and a double has one.
-/

namespace SqlAssembly

open Numeric

namespace Json

/-! ## Texts -/

theorem hexDigit?_digitChar {n : Nat} (h : n < 16) : hexDigit? (Nat.digitChar n) = some n := by
  have all : ∀ k < 16, hexDigit? (Nat.digitChar k) = some k := by decide
  exact all n h

theorem hexUnit?_controlCode {c : Char} (control : c < ' ') :
    hexUnit? '0' '0' (Nat.digitChar (c.toNat / 16)) (Nat.digitChar (c.toNat % 16)) =
      some c.toNat := by
  have small : c.toNat < 32 := control
  have zero : hexDigit? '0' = some 0 := rfl
  have high := hexDigit?_digitChar (n := c.toNat / 16) (by omega)
  have low := hexDigit?_digitChar (n := c.toNat % 16) (by omega)
  rw [hexUnit?, zero, high, low]
  simp only [Option.bind_eq_bind, Option.bind_some, Option.pure_def, Option.some.injEq]
  omega

/-- A character is read back from its escaped form. -/
theorem readText_escaped (c : Char) (rest : List Char) :
    readText (escaped c ++ rest) = (readText rest).map fun (cs, rest) => (c :: cs, rest) := by
  unfold escaped
  split
  · rfl
  · rfl
  · rfl
  · rfl
  · rfl
  · rfl
  · rfl
  · rename_i quote backslash _ _ _ _ _
    have slash : c ≠ '\\' := backslash
    split
    · rename_i control
      have small : c.toNat < 32 := control
      have unit := hexUnit?_controlCode control
      have high : ¬ IsHighSurrogate c.toNat := fun h => by
        have := h.1
        omega
      have low : ¬ IsLowSurrogate c.toNat := fun h => by
        have := h.1
        omega
      simp only [controlCode, List.cons_append, List.nil_append, readText, unit, high, low,
        if_false, Char.ofNat_toNat]
    · rename_i printable
      have plain : (c < ' ' || c = '\\') = false := by simp [printable, slash]
      rw [List.singleton_append, readText, plain]
      · rfl
      · exact quote
      · intro _ _ _ _ _ first
        exact absurd first slash
      · intro _ _ first
        exact absurd first slash

theorem readText_write (cs rest : List Char) :
    readText (cs.flatMap escaped ++ '"' :: rest) = some (cs, rest) := by
  induction cs with
  | nil => rfl
  | cons c cs ih =>
      rw [List.flatMap_cons, List.append_assoc, readText_escaped, ih]
      rfl

/-! ## Documents without parts -/

theorem skipSpace_cons {c : Char} (visible : isSpace c = false) (cs : List Char) :
    skipSpace (c :: cs) = c :: cs := by
  rw [skipSpace, List.dropWhile_cons_of_neg (by simp [visible])]

/-- A minus or a digit. -/
def BeginsNumber (c : Char) : Prop := c = '-' ∨ c.isDigit = true

instance (c : Char) : Decidable (BeginsNumber c) := inferInstanceAs (Decidable (_ ∨ _))

theorem BeginsNumber.ne {c d : Char} (h : BeginsNumber c) (other : ¬ BeginsNumber d) : c ≠ d := by
  rintro rfl
  exact other h

theorem BeginsNumber.visible {c : Char} (h : BeginsNumber c) : isSpace c = false := by
  have blank : c ≠ ' ' := h.ne (by decide)
  have line : c ≠ '\n' := h.ne (by decide)
  have tab : c ≠ '\t' := h.ne (by decide)
  have carriage : c ≠ '\r' := h.ne (by decide)
  simp [isSpace, blank, line, tab, carriage]

/-- A text that begins like a number is read as one. -/
theorem readValue_of_beginsNumber (round : Rounding) (steps depth : Nat) {c : Char}
    (cs : List Char) (start : BeginsNumber c) :
    readValue round (steps + 1) depth (c :: cs) =
      (readNumber round (c :: cs)).map fun (n, rest) => (.number n, rest) := by
  rw [readValue, skipSpace_cons start.visible]
  split
  · rename_i h
    exact absurd (List.cons.inj h).1 (start.ne (by decide))
  · rename_i h
    exact absurd (List.cons.inj h).1 (start.ne (by decide))
  · rename_i h
    exact absurd (List.cons.inj h).1 (start.ne (by decide))
  · rename_i h
    exact absurd (List.cons.inj h).1 (start.ne (by decide))
  · rename_i h
    exact absurd (List.cons.inj h).1 (start.ne (by decide))
  · rename_i h
    exact absurd (List.cons.inj h).1 (start.ne (by decide))
  · rfl

theorem Numeral.WellFormed.write_start {t : Numeral} (h : t.WellFormed) (rest : List Char) :
    ∃ c cs, t.write ++ rest = c :: cs ∧ BeginsNumber c := by
  obtain ⟨d, ds, text, digit⟩ := h.unsignedText_start rest
  rw [Numeral.write, List.append_assoc, text]
  cases t.negative with
  | true => exact ⟨'-', d :: ds, rfl, .inl rfl⟩
  | false => exact ⟨d, ds, rfl, .inr digit⟩

/-- A document that begins with a numeral is a number. -/
theorem readValue_numeral (round : Rounding) (steps depth : Nat) {t : Numeral} (h : t.WellFormed)
    (rest : List Char) :
    readValue round (steps + 1) depth (t.write ++ rest) =
      (readNumber round (t.write ++ rest)).map fun (n, rest) => (.number n, rest) := by
  obtain ⟨c, cs, text, start⟩ := h.write_start rest
  rw [text, readValue_of_beginsNumber round steps depth cs start]

theorem Number.write_start {n : Number} (proper : n.IsProper) (rest : List Char) :
    ∃ c cs, n.write ++ rest = c :: cs ∧ BeginsNumber c := by
  rw [← write_numeral proper]
  exact (wellFormed_numeral proper).write_start rest

theorem readValue_number {round : Rounding} (correct : round.IsCorrect) (steps depth : Nat)
    {n : Number} (proper : n.IsProper) {rest : List Char} (stop : Numeral.Ends rest) :
    readValue round (steps + 1) depth (n.write ++ rest) = some (.number n, rest) := by
  have number := readValue_numeral round steps depth (Number.wellFormed_numeral proper) rest
  rw [Number.write_numeral proper, Number.readNumber_write correct proper stop] at number
  exact number

theorem Number.isProper_ofInt64 (n : Int64) : (Number.ofInt64 n).IsProper := by
  rw [ofInt64]
  split
  · assumption
  · trivial

end Json

/-! ## Scalars -/

namespace Scalar

open Json

theorem toJson_of_finite {x : Double} (finite : x.IsFinite) :
    (Scalar.float x).toJson = .number (.real x) := if_pos finite

theorem toJson_of_not_finite {x : Double} (infinite : ¬ x.IsFinite) :
    (Scalar.float x).toJson = .null := if_neg infinite

/-- What is written for a scalar is read as the document that was written, whatever follows. -/
theorem readValue_write {round : Rounding} (correct : round.IsCorrect) (s : Scalar)
    (steps depth : Nat) {rest : List Char} (stop : Numeral.Ends rest) :
    readValue round (steps + 1) depth (write s.toJson ++ rest) = some (s.toJson, rest) := by
  cases s with
  | text s =>
      have text := readText_write s.toList rest
      have quote : skipSpace ('"' :: (s.toList.flatMap escaped ++ '"' :: rest)) =
          '"' :: (s.toList.flatMap escaped ++ '"' :: rest) := rfl
      rw [toJson, write, writeText, List.cons_append, List.append_assoc, List.singleton_append,
        readValue, quote]
      simp only [text, Option.map_some, String.ofList_toList]
  | int n =>
      rw [toJson, write]
      exact readValue_number correct steps depth (Number.isProper_ofInt64 n) stop
  | float x =>
      by_cases finite : x.IsFinite
      · rw [toJson_of_finite finite, write]
        exact readValue_number correct (n := .real x) steps depth finite stop
      · rw [toJson_of_not_finite finite]
        rfl
  | bool b => cases b <;> rfl

theorem write_start (s : Scalar) :
    ∃ c cs, write s.toJson = c :: cs ∧ isSpace c = false ∧ c ≠ ']' := by
  have number {n : Number} (proper : n.IsProper) :
      ∃ c cs, write (.number n) = c :: cs ∧ isSpace c = false ∧ c ≠ ']' := by
    obtain ⟨c, cs, text, start⟩ := n.write_start proper []
    rw [List.append_nil] at text
    exact ⟨c, cs, text, start.visible, start.ne (by decide)⟩
  cases s with
  | text s => exact ⟨_, _, rfl, rfl, by decide⟩
  | int n => exact number (Number.isProper_ofInt64 n)
  | float x =>
      by_cases finite : x.IsFinite
      · rw [toJson_of_finite finite]
        exact number (n := .real x) finite
      · rw [toJson_of_not_finite finite]
        exact ⟨_, _, rfl, rfl, by decide⟩
  | bool b => cases b <;> exact ⟨_, _, rfl, rfl, by decide⟩

/-! ## Scalars as documents -/

theorem toInt64?_ofInt64 (n : Int64) : (Number.ofInt64 n).toInt64? = some n := by
  rw [Number.ofInt64]
  split
  · rfl
  · rename_i notBelow
    have nonnegative : 0 ≤ n := Int64.not_lt.mp notBelow
    have bound := n.toNatClampNeg_lt
    have same : (UInt64.ofNat n.toInt.toNat).toNat = n.toNatClampNeg := by
      rw [Int64.toNat_toInt, UInt64.toNat_ofNat_of_lt']
      exact Nat.lt_trans bound (by decide)
    have fits : (n.toNatClampNeg : Int) ≤ Int64.maxValue.toInt := by
      rw [Int64.cast_toNatClampNeg n nonnegative]
      exact n.toInt_le
    rw [Number.toInt64?, same, if_pos fits, Int64.ofNat_toNatClampNeg n nonnegative]

theorem ofJson_toJson {s : Scalar} (finite : s.IsFinite) : ofJson s.toJson = .ok s := by
  cases s with
  | text s => rfl
  | int n => rw [toJson, ofJson, toInt64?_ofInt64]
  | float x =>
      rw [toJson_of_finite finite]
      rfl
  | bool b => rfl

theorem decode?_toJson {s : Scalar} (finite : s.IsFinite) : decode? s.toJson = some s := by
  cases s with
  | text s => rfl
  | int n => simp [toJson, decode?, Json.text?, Json.int64?, toInt64?_ofInt64]
  | float x =>
      rw [toJson_of_finite finite]
      rfl
  | bool b => rfl

/-- Only null is written for a scalar that is not finite. -/
theorem toJson_eq_null {s : Scalar} (infinite : ¬ s.IsFinite) : s.toJson = .null := by
  cases s with
  | float x => exact toJson_of_not_finite infinite
  | _ => exact absurd trivial infinite

end Scalar

end SqlAssembly
