import SqlAssembly.Proofs.Json.Numbers
import SqlAssembly.Proofs.Numeric.NearestEven
import SqlAssembly.Proofs.Numeric.ShortestDigits
import SqlAssembly.Proofs.PartRuns
import SqlAssembly.Proofs.PlainText
import SqlAssembly.Proofs.Soundness

/-!
# Literals that can be read

What literal mode writes for a number is a numeral without an exponent, and the numeral stands for
the number: an integer's for the integer, a double's for a decimal that is nearest to this double
and no other (`Scalar.spelled_literal`). Conditions hold no infinite doubles, so this is true of
every number in a query (`Query.literals_spelled`).
-/

namespace SqlAssembly

open Numeric Json

namespace Json.Numeral

/-! ## Numerals of displayed numbers -/

/-- Digits, and a point only where the decimal has places. -/
def plain (negative : Bool) (d : Decimal) : Numeral :=
  if 0 ≤ d.exponent then
    ⟨negative, d.digits ++ List.replicate d.exponent.toNat '0', none, none⟩
  else positional negative d

/-- The numeral that a finite number is displayed as. -/
def ofDisplay {f : BinaryFormat} (x : BinaryFloat f) : Numeral :=
  if x.code = 0 then ofNat x.negative 0
  else plain x.negative (Decimal.shortest f .up x.code)

variable {negative : Bool} {d : Decimal}

theorem negative_plain : (plain negative d).negative = negative := by
  rw [plain]
  split
  · rfl
  · exact negative_positional _ _

theorem exponent_plain : (plain negative d).exponent = none := by
  rw [plain]
  split
  · rfl
  · rw [positional]
    split
    · rfl
    · split <;> rfl

theorem unsignedText_plain : (plain negative d).unsignedText = d.positional := by
  by_cases whole : 0 ≤ d.exponent
  · have places : (-d.exponent).toNat = 0 := by omega
    simp [plain, whole, places, unsignedText, fractionText, exponentText, Decimal.positional]
  · rw [plain, if_neg whole, unsignedText_positional, if_neg whole, List.append_nil]

theorem write_plain :
    (plain negative d).write = (if negative then ['-'] else []) ++ d.positional := by
  rw [write, negative_plain, unsignedText_plain]

theorem wellFormed_plain (positive : 0 < d.coefficient) : (plain negative d).WellFormed := by
  have digits : IsDigits d.digits := isDigits_toDigits _
  rw [plain]
  split
  · refine ⟨digits.append fun c hc => ?_, .inr ?_, nofun, nofun⟩
    · rw [List.eq_of_mem_replicate hc]
      rfl
    · rw [List.head?_append_of_ne_nil _ digits.1]
      exact head?_toDigits positive
  · exact wellFormed_positional negative positive

/-- A whole number is filled up with zeros, and otherwise the digits stay. -/
theorem value_magnitude_plain : (plain negative d).magnitude.value = d.value := by
  rw [plain]
  split
  · rename_i whole
    obtain ⟨n, exponent⟩ := Int.eq_ofNat_of_zero_le whole
    have magnitude : (⟨negative, d.digits ++ List.replicate d.exponent.toNat '0', none, none⟩ :
        Numeral).magnitude = ⟨d.coefficient * tenPow n, 0⟩ := by
      rw [magnitude_eq, Option.getD_none, List.append_nil, digitsValue_append_replicate,
        digitsValue_digits, exponent]
      rfl
    rw [magnitude, Decimal.value, Decimal.value, exponent, zpow_natCast, zpow_zero, mul_one,
      Nat.cast_mul, cast_tenPow]
  · rename_i places
    rw [magnitude_positional negative (not_le.mp places)]

section Display

variable {f : BinaryFormat} {x : BinaryFloat f}

theorem negative_ofDisplay : (ofDisplay x).negative = x.negative := by
  rw [ofDisplay]
  split
  · rfl
  · exact negative_plain

theorem exponent_ofDisplay : (ofDisplay x).exponent = none := by
  rw [ofDisplay]
  split
  · rfl
  · exact exponent_plain

theorem write_ofDisplay (finite : x.IsFinite) : (ofDisplay x).write = x.display.toList := by
  rw [ofDisplay]
  split
  · rename_i zero
    rw [write_ofNat, BinaryFloat.display_of_zero finite zero, String.toList_ofList]
    rfl
  · rename_i positive
    rw [write_plain, BinaryFloat.display_of_ne_zero finite positive, String.toList_ofList]
    rfl

theorem wellFormed_ofDisplay (finite : x.IsFinite) : (ofDisplay x).WellFormed := by
  rw [ofDisplay]
  split
  · exact wellFormed_ofNat _ _
  · rename_i positive
    exact wellFormed_plain (Decimal.coefficient_shortest_pos .up finite positive)

theorem nearest_magnitude_ofDisplay (finite : x.IsFinite) :
    (ofDisplay x).magnitude.nearest f = x.code := by
  rw [ofDisplay]
  split
  · rename_i zero
    rw [zero]
    exact Decimal.nearest_eq_zero_of_coefficient f rfl
  · rw [Decimal.nearest_eq_of_value f value_magnitude_plain]
    exact Decimal.nearest_shortest .up finite

end Display

/-! ## Texts that spell numerals -/

/-- The text is the numeral without an exponent: an optional minus, digits, and perhaps a point and
digits. Reading the whole text gives this numeral. -/
structure Spells (t : Numeral) (text : String) : Prop where
  parts : text.toList =
    (if t.negative then ['-'] else []) ++ (t.whole ++ fractionText t.fraction)
  whole : IsDigits t.whole
  fraction : ∀ ds, t.fraction = some ds → IsDigits ds
  exponent : t.exponent = none
  read : readNumeral text.toList = some (t, [])

theorem WellFormed.spells {t : Numeral} (h : t.WellFormed) (plain : t.exponent = none)
    {text : String} (written : t.write = text.toList) : t.Spells text where
  parts := by rw [← written, write, unsignedText, plain, exponentText, List.append_nil]
  whole := h.whole
  fraction := h.fraction
  exponent := plain
  read := by
    have read := readNumeral_write h ends_nil
    rwa [List.append_nil, written] at read

/-- The integer that the digits before the point stand for. -/
def toInt (t : Numeral) : Int :=
  if t.negative then -(digitsValue t.whole : Int) else digitsValue t.whole

theorem toInt_ofNat (n : Int) : (ofNat (n < 0) n.natAbs).toInt = n := by
  have value : digitsValue (ofNat (n < 0) n.natAbs).whole = n.natAbs := digitsValue_toDigits _
  have sign : (ofNat (n < 0) n.natAbs).negative = decide (n < 0) := rfl
  rw [toInt, value, sign]
  split
  · rename_i below
    have negative : n < 0 := of_decide_eq_true below
    omega
  · rename_i notBelow
    have nonnegative : ¬ n < 0 := fun below => notBelow (decide_eq_true below)
    omega

theorem write_ofNat_toString (n : Int) :
    (ofNat (n < 0) n.natAbs).write = (toString n).toList := by
  rw [write_ofNat, Int.toString_eq_repr, Int.repr_eq_if]
  by_cases nonnegative : 0 ≤ n
  · have magnitude : n.toNat = n.natAbs := by omega
    rw [if_pos nonnegative, decide_eq_false (not_lt.mpr nonnegative), Nat.toList_repr, magnitude]
    rfl
  · have magnitude : (-n).toNat = n.natAbs := by omega
    rw [if_neg nonnegative, decide_eq_true (not_le.mp nonnegative), String.toList_append,
      Nat.toList_repr, magnitude]
    rfl

end Json.Numeral

/-! ## Scalars and their literals -/

namespace Scalar

/-- The text can be read as the scalar, by the scalar's kind: the word of the truth value, digits
of the integer, or a decimal that is rounded to the double, of which every bit comes back. -/
inductive Spelled : Scalar → String → Prop where
  | bool (b : Bool) : Spelled (.bool b) (if b then "true" else "false")
  | int {n : Int64} {text : String} {t : Numeral} (spells : t.Spells text)
      (whole : t.fraction = none) (value : t.toInt = n.toInt) : Spelled (.int n) text
  | float {x : Double} {text : String} {t : Numeral} (spells : t.Spells text)
      (nearest : x.IsNearest t.magnitude.value)
      (bits : BinaryFloat.ofDecimal .double t.negative t.magnitude = x) : Spelled (.float x) text

theorem spelled_literal {s : Scalar} (finite : s.IsFinite) (notText : s.text? = none) :
    s.Spelled s.literal := by
  cases s with
  | text t => cases notText
  | int n =>
      exact .int ((Numeral.wellFormed_ofNat _ _).spells rfl (Numeral.write_ofNat_toString n.toInt))
        rfl (Numeral.toInt_ofNat n.toInt)
  | float x =>
      have bounded : x.IsFinite := finite
      have reads := Numeral.nearest_magnitude_ofDisplay bounded
      refine .float ((Numeral.wellFormed_ofDisplay bounded).spells Numeral.exponent_ofDisplay
        (Numeral.write_ofDisplay bounded))
        (BinaryFloat.isNearest_of_nearest (by decide) bounded reads) ?_
      exact BinaryFloat.eq_of_negative_of_code Numeral.negative_ofDisplay reads
  | bool b => exact .bool b

end Scalar

/-! ## Literals in statements -/

/-- What is written into a hole stands in the filled text. -/
theorem Layout.exists_fill_eq {α : Type} (mark : Nat → α → String) {l : Layout α} {a : α}
    (hole : a ∈ holes l) (k : Nat) :
    ∃ (i : Nat) (before after : String), fill mark k l = before ++ mark i a ++ after := by
  induction l generalizing k with
  | nil => cases hole
  | cons f l ih =>
      cases f with
      | text t =>
          obtain ⟨i, before, after, rest⟩ := ih hole k
          refine ⟨i, t ++ before, after, ?_⟩
          rw [fill_text, rest]
          simp only [String.append_assoc]
      | hole b =>
          rcases List.mem_cons.mp hole with rfl | hole
          · exact ⟨k + 1, "", fill mark (k + 1) l, by rw [fill_hole, String.empty_append]⟩
          · obtain ⟨i, before, after, rest⟩ := ih hole (k + 1)
            refine ⟨i, mark (k + 1) b ++ before, after, ?_⟩
            rw [fill_hole, rest]
            simp only [String.append_assoc]

namespace Query

variable {q : Query}

theorem mem_filter_scalars {c : Condition} (condition : c ∈ q.conditions) {s : Scalar}
    (scalar : s ∈ c.scalars) : s ∈ q.filter.scalars := by
  have all : q.conditions.flatMap Condition.scalars = q.filter.scalars := by
    rw [conditions, Part.flatMap_scalars_flatten, List.flatMap_append]
    rfl
  rw [← all]
  exact List.mem_flatMap.mpr ⟨c, condition, scalar⟩

/-- Literal mode writes the literal of every scalar of a condition into every statement. -/
theorem exists_sql_eq_literal (mode : q.mode = .literal) {s : Scalar} (held : s ∈ q.filter.scalars)
    (kind : Statement.Kind) :
    ∃ before after : String, (q.build kind).sql = before ++ s.literal ++ after := by
  have hole : s ∈ Layout.holes q.filter.layout := by rwa [Filter.holes_layout]
  obtain ⟨i, before, after, text⟩ :=
    Layout.exists_fill_eq q.mode.mark hole (q.assigned kind).length
  have mark : q.mode.mark i s = s.literal := by
    rw [mode]
    rfl
  refine ⟨q.opening kind ++ before, after ++ q.ending kind, ?_⟩
  rw [sql_around_where, whereText_eq_fill, text, mark]
  simp only [String.append_assoc]

/-- Every condition of a reachable query holds numbers and truth values whose literals can be read:
`true` or `false`, an optional minus and digits that stand for the integer, or an optional minus,
digits, and perhaps a point and digits that are rounded to the double with all its bits. In literal
mode this is what stands in every statement. -/
theorem literals_spelled (config : Config) (steps : List Step) :
    let q := (new config).run steps
    ∀ c ∈ q.conditions, ∀ s ∈ c.scalars, s.text? = none →
      s.Spelled s.literal ∧
        (q.mode = .literal → ∀ kind : Statement.Kind,
          ∃ before after : String, (q.build kind).sql = before ++ s.literal ++ after) := by
  intro q c condition s scalar notText
  refine ⟨Scalar.spelled_literal (c.scalars_finite s scalar) notText, fun mode kind => ?_⟩
  exact exists_sql_eq_literal mode (mem_filter_scalars condition scalar) kind

/-- The least integer, the double that is as great as a one with 21 zeros, and minus zero. -/
theorem literals_spelled_usersBy :
    (Scalar.int Int64.minValue).Spelled "-9223372036854775808" ∧
    (Scalar.float (.ofBits .double 0x444b1ae4d6e2ef50)).Spelled "1000000000000000000000" ∧
    (Scalar.float ⟨true, 0, by decide⟩).Spelled "-0" ∧
    ∃ before after : String,
      ((usersBy .literal (.bool true) [.int Int64.minValue,
        .float (.ofBits .double 0x444b1ae4d6e2ef50), .float ⟨true, 0, by decide⟩] trivial
        (by decide)).build .select).sql = before ++ "1000000000000000000000" ++ after := by
  have spelled := literals_spelled ⟨.literal, none⟩ (Step.usersBy (.bool true)
    [.int Int64.minValue, .float (.ofBits .double 0x444b1ae4d6e2ef50), .float ⟨true, 0, by decide⟩]
    trivial (by decide)) _ (.tail _ (.head _))
  have least : (Scalar.int Int64.minValue).literal = "-9223372036854775808" := by decide
  have great : (Scalar.float (.ofBits .double 0x444b1ae4d6e2ef50)).literal =
      "1000000000000000000000" := by decide +kernel
  have zero : (Scalar.float ⟨true, 0, by decide⟩).literal = "-0" := by decide
  rw [← least, ← great, ← zero]
  refine ⟨(spelled _ (.head _) rfl).1, (spelled _ (.tail _ (.head _)) rfl).1,
    (spelled _ (.tail _ (.tail _ (.head _))) rfl).1, ?_⟩
  exact (spelled _ (.tail _ (.head _)) rfl).2 rfl .select

end Query

end SqlAssembly
