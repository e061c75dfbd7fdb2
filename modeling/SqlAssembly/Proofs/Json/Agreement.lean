import SqlAssembly.Proofs.Json.Scalars
import SqlAssembly.Proofs.Outcomes

/-!
# Agreement of the two readers

Reading by the kind of a document and reading by trial come to one result, on documents
(`Scalar.decode?_eq`, `Value.decode?_eq`) and so on well-formed texts (`Value.readers_agree`). Both
refuse what is no text, number or truth value, by itself or as an item, and nothing else, because
every number has a scalar. The integer is tried before the double, so an integer stays exact
whenever 64 bits hold it, in a document as well as in the text that it is written as. All of this
is true however numerals are rounded: both readers look at the number that was read, and it is one
double for both.
-/

namespace SqlAssembly

open Numeric

/-! ## Documents without a scalar -/

namespace Json

/-- The document stands for no scalar, and why. -/
inductive NoScalar : Json → ArgumentFault → Prop where
  | null : NoScalar .null .nullScalar
  | array (items : List Json) : NoScalar (.array items) .nestedSequence
  | object (fields : List (String × Json)) : NoScalar (.object fields) .objectScalar

/-- The document stands for no value, and why: an array is at fault if an item of it is. -/
inductive NoValue : Json → ArgumentFault → Prop where
  | null : NoValue .null .nullScalar
  | object (fields : List (String × Json)) : NoValue (.object fields) .objectScalar
  | item {items : List Json} {item : Json} {cause : ArgumentFault} (mem : item ∈ items)
      (unfit : NoScalar item cause) : NoValue (.array items) cause

theorem NoScalar.ne_numberRange {d : Json} {cause : ArgumentFault} (unfit : d.NoScalar cause)
    (n : Number) : cause ≠ .numberRange n := by
  cases unfit <;> exact nofun

theorem NoValue.ne_numberRange {d : Json} {cause : ArgumentFault} (unfit : d.NoValue cause)
    (n : Number) : cause ≠ .numberRange n := by
  cases unfit with
  | item _ unfit => exact unfit.ne_numberRange n
  | _ => exact nofun

/-- The integer that the document is kept as, if it is. -/
def integer? : Json → Option Int
  | .number (.whole n) => some n.toNat
  | .number (.below n) => some n.toInt
  | _ => none

end Json

/-! ## Scalars -/

namespace Scalar

open Json

/-- An integer is exact if 64 bits hold it, and rounded to nearest otherwise. -/
def ofInteger (z : Int) : Scalar :=
  if Int64.minValue.toInt ≤ z ∧ z ≤ Int64.maxValue.toInt then .int (Int64.ofInt z)
  else .float (.ofInt .double z)

theorem ofInteger_toInt (n : Int64) : ofInteger n.toInt = .int n := by
  rw [ofInteger, if_pos ⟨n.minValue_le_toInt, n.toInt_le⟩, Int64.ofInt_toInt]

theorem toInt_of_ofInteger {z : Int} {n : Int64} (h : ofInteger z = .int n) : n.toInt = z := by
  rw [ofInteger] at h
  split at h
  · rename_i fits
    cases h
    exact Int64.toInt_ofInt_of_le fits.1 (Int.lt_add_one_iff.mpr fits.2)
  · cases h

theorem ofJson_of_integer {d : Json} {z : Int} (integer : d.integer? = some z) :
    ofJson d = .ok (ofInteger z) := by
  cases d with
  | number n =>
      cases n with
      | whole n =>
          cases integer
          by_cases fits : (n.toNat : Int) ≤ Int64.maxValue.toInt
          · have least : Int64.minValue.toInt ≤ (n.toNat : Int) :=
              Int.le_trans (by decide) (Int.natCast_nonneg _)
            rw [ofJson, Number.toInt64?, if_pos fits, ofInteger, if_pos ⟨least, fits⟩,
              Int64.ofInt_eq_ofNat]
          · rw [ofJson, Number.toInt64?, if_neg fits, ofInteger, if_neg (fun h => fits h.2)]
            rfl
      | below n =>
          cases integer
          rw [ofInteger_toInt]
          rfl
      | real x => cases integer
  | _ => cases integer

theorem ofJson_eq_int_iff {d : Json} {n : Int64} :
    ofJson d = .ok (.int n) ↔ d.integer? = some n.toInt := by
  constructor
  · intro read
    cases integer : d.integer? with
    | some z =>
        rw [ofJson_of_integer integer] at read
        rw [toInt_of_ofInteger (Except.ok.inj read)]
    | none =>
        cases d with
        | number n =>
            cases n with
            | real x => cases read
            | _ => cases integer
        | _ => cases read
  · intro integer
    rw [ofJson_of_integer integer, ofInteger_toInt]

theorem exists_ofJson_number (n : Number) : ∃ s, ofJson (.number n) = .ok s := by
  cases n with
  | whole n => exact ⟨_, ofJson_of_integer rfl⟩
  | below n => exact ⟨_, ofJson_of_integer rfl⟩
  | real x => exact ⟨.float x, rfl⟩

theorem ofJson_eq_error_iff {d : Json} {e : BuildError} :
    ofJson d = .error e ↔ ∃ cause, d.NoScalar cause ∧ e = .invalidArgument cause := by
  constructor
  · intro refused
    cases d with
    | number n =>
        obtain ⟨s, read⟩ := exists_ofJson_number n
        rw [read] at refused
        cases refused
    | null =>
        cases refused
        exact ⟨_, .null, rfl⟩
    | array items =>
        cases refused
        exact ⟨_, .array items, rfl⟩
    | object fields =>
        cases refused
        exact ⟨_, .object fields, rfl⟩
    | text s => cases refused
    | bool b => cases refused
  · rintro ⟨cause, unfit, rfl⟩
    cases unfit <;> rfl

theorem exists_error_iff {d : Json} : (∃ e, ofJson d = .error e) ↔ ∃ cause, d.NoScalar cause := by
  simp only [ofJson_eq_error_iff]
  exact ⟨fun ⟨_, cause, unfit, _⟩ => ⟨cause, unfit⟩, fun ⟨cause, unfit⟩ => ⟨_, cause, unfit, rfl⟩⟩

/-- A trial that comes later never fits what an earlier kind of document gives. -/
theorem decode?_eq (d : Json) : decode? d = (ofJson d).toOption := by
  cases d with
  | number n =>
      have kinds : decode? (.number n) =
          (n.toInt64?.map .int <|> n.toDouble?.map .float) := by
        simp [decode?, Json.text?, Json.int64?, Json.double?, Json.bool?]
      rw [kinds, ofJson]
      cases n.toInt64? with
      | some i => rfl
      | none => cases n.toDouble? <;> rfl
  | _ => rfl

end Scalar

/-! ## Values -/

namespace Value

open Json Outcome

theorem ofJson_array (items : List Json) :
    ofJson (.array items) = (items.mapM Scalar.ofJson).map .sequence := rfl

/-- A document that is no array is read as a scalar. -/
theorem ofJson_of_items {d : Json} (plain : d.items? = none) :
    ofJson d = (Scalar.ofJson d).map .scalar := by
  cases d with
  | array items => cases plain
  | _ => rfl

theorem decodeList?_array (items : List Json) :
    Scalar.decodeList? (.array items) = (items.mapM Scalar.ofJson).toOption := by
  rw [← mapM_toOption]
  exact congrArg (fun read => items.mapM read) (funext Scalar.decode?_eq)

/-- An array is tried as a scalar first, which it never fits. -/
theorem decode?_eq (d : Json) : decode? d = (ofJson d).toOption := by
  cases kind : d.items? with
  | none =>
      rw [decode?, Scalar.decode?_eq, Scalar.decodeList?, kind, ofJson_of_items kind]
      cases Scalar.ofJson d <;> rfl
  | some items =>
      cases d with
      | array items =>
          rw [decode?, decodeList?_array, ofJson_array]
          cases items.mapM Scalar.ofJson <;> rfl
      | _ => cases kind

theorem decodeList?_eq_some_iff {d : Json} {items : List Scalar} :
    Scalar.decodeList? d = some items ↔ ofJson d = .ok (.sequence items) := by
  cases kind : d.items? with
  | none =>
      rw [Scalar.decodeList?, kind, ofJson_of_items kind]
      cases Scalar.ofJson d <;> exact ⟨nofun, nofun⟩
  | some documents =>
      cases d with
      | array documents =>
          rw [decodeList?_array, ofJson_array]
          cases documents.mapM Scalar.ofJson <;> simp [Except.toOption, Except.map]
      | _ => cases kind

theorem noValue_of_error {d : Json} {e : BuildError} (refused : ofJson d = .error e) :
    ∃ cause, d.NoValue cause ∧ e = .invalidArgument cause := by
  cases d with
  | array items =>
      have items : items.mapM Scalar.ofJson = .error e := by
        rw [ofJson_array] at refused
        cases items : items.mapM Scalar.ofJson with
        | error e' =>
            rw [items] at refused
            cases refused
            rfl
        | ok _ =>
            rw [items] at refused
            cases refused
      obtain ⟨item, mem, error⟩ := exists_of_mapM_error items
      obtain ⟨cause, unfit, same⟩ := Scalar.ofJson_eq_error_iff.mp error
      exact ⟨cause, .item mem unfit, same⟩
  | number n =>
      obtain ⟨s, read⟩ := Scalar.exists_ofJson_number n
      rw [ofJson_of_items rfl, read] at refused
      cases refused
  | null =>
      cases refused
      exact ⟨_, .null, rfl⟩
  | object fields =>
      cases refused
      exact ⟨_, .object fields, rfl⟩
  | text s => cases refused
  | bool b => cases refused

theorem exists_error_iff {d : Json} : (∃ e, ofJson d = .error e) ↔ ∃ cause, d.NoValue cause := by
  constructor
  · rintro ⟨e, refused⟩
    obtain ⟨cause, unfit, _⟩ := noValue_of_error refused
    exact ⟨cause, unfit⟩
  · rintro ⟨cause, unfit⟩
    cases unfit with
    | null => exact ⟨_, rfl⟩
    | object fields => exact ⟨_, rfl⟩
    | item mem unfit =>
        rw [ofJson_array]
        refine map_error_iff.mpr (mapM_error_iff.mpr ⟨_, mem, ?_⟩)
        exact Scalar.exists_error_iff.mpr ⟨cause, unfit⟩

end Value

/-! ## Integers as texts -/

namespace Json

namespace Numeral

/-- An integer as it is usually written: without point, exponent or a leading zero, and zero
without a minus. -/
def ofInt (z : Int) : Numeral := ofNat (z < 0) z.natAbs

theorem write_ofInt (z : Int) : (ofInt z).write = (toString z).toList := by
  rw [ofInt, write_ofNat, Int.toString_eq_repr, Int.repr_eq_if]
  by_cases below : z < 0
  · have magnitude : (-z).toNat = z.natAbs := by omega
    rw [decide_eq_true below, if_neg (Int.not_le.mpr below), String.toList_append, Nat.toList_repr,
      magnitude]
    rfl
  · have magnitude : z.toNat = z.natAbs := by omega
    rw [decide_eq_false below, if_pos (Int.not_lt.mp below), Nat.toList_repr, magnitude]
    rfl

theorem digitsValue_ofInt (z : Int) : digitsValue (ofInt z).whole = z.natAbs :=
  digitsValue_toDigits _

theorem toNumber_ofInt_of_size_le {round : Rounding} {z : Int} (long : UInt64.size ≤ z.natAbs) :
    (ofInt z).toNumber round = (round (ofInt z)).map .real := by
  rw [toNumber, digitsValue_ofInt, if_neg (fun h => Nat.not_lt.mpr long h.2)]

/-- What the numeral is kept as, by the size of the integer, if its digits fit into 64 bits. -/
theorem ofJson_ofInt {round : Rounding} {z : Int} (short : z.natAbs < UInt64.size) {n : Number}
    (number : (ofInt z).toNumber round = some n) :
    Scalar.ofJson (.number n) = .ok (.ofInteger z) := by
  have whole : (ofInt z).IsWhole := ⟨rfl, rfl⟩
  have negative : (ofInt z).negative = decide (z < 0) := rfl
  rw [toNumber, digitsValue_ofInt, if_pos ⟨whole, short⟩, negative] at number
  by_cases below : z < 0
  · have same : -(z.natAbs : Int) = z := by omega
    rw [same, if_neg (by simp [below])] at number
    by_cases least : Int64.minValue.toInt ≤ z
    · rw [if_pos ⟨by omega, least⟩] at number
      cases number
      refine Scalar.ofJson_of_integer ?_
      rw [integer?, Int64.toInt_ofInt_of_le least (by omega)]
    · rw [if_neg (fun h => least h.2)] at number
      cases number
      rw [Scalar.ofInteger, if_neg (fun h => least h.1), ← BinaryFloat.neg_ofInt_natAbs below]
      rfl
  · rw [decide_eq_false below, if_pos rfl] at number
    cases number
    have same : (z.natAbs : Int) = z := by omega
    refine Scalar.ofJson_of_integer ?_
    rw [integer?, UInt64.toNat_ofNat_of_lt' short, same]

end Numeral

theorem exists_number_of_read_toString {round : Rounding} {z : Int} {d : Json}
    (h : Json.read (toString z) round = some d) :
    ∃ n, (Numeral.ofInt z).toNumber round = some n ∧ d = .number n := by
  have wellFormed : (Numeral.ofInt z).WellFormed := Numeral.wellFormed_ofNat _ _
  have numeral := readValue_numeral round (2 * (toString z).toList.length) maxDepth wellFormed []
  rw [readNumber, Numeral.readNumeral_write wellFormed Numeral.ends_nil, List.append_nil,
    Numeral.write_ofInt] at numeral
  rw [Json.read, readFirst, numeral] at h
  cases number : (Numeral.ofInt z).toNumber round with
  | none => simp [number] at h
  | some n =>
      refine ⟨n, rfl, ?_⟩
      simpa [number, skipSpace] using h.symm

end Json

/-! ## Well-formed texts -/

namespace Json

variable {ε α : Type} {x : Except ε α}

theorem fit_toOption_eq_ok_iff {a : α} : fit x.toOption = .ok a ↔ x = .ok a := by
  cases x <;> simp [fit, Except.toOption]

theorem fit_toOption_eq_unfit_iff : fit x.toOption = .error .unfit ↔ ∃ e, x = .error e := by
  cases x <;> simp [fit, Except.toOption]

end Json

namespace Value

open Json

/-- However numerals are rounded, reading a well-formed text by trial gives a scalar, a value or a
list of scalars if and only if its document stands for it, and both readers refuse the same
documents. A document is kept as an integer if and only if it is one of 64 bits. Any other integer
becomes one double for both readers: the nearest one if its digits fit into 64 bits, and what it is
rounded to if not. A number is never refused. -/
theorem readers_agree {round : Rounding} {text : String} {d : Json}
    (read : Json.read text round = some d) :
    (∀ s, Scalar.ofJsonText text round = .ok s ↔ Scalar.ofJson d = .ok s) ∧
    (∀ v, Value.ofJsonText text round = .ok v ↔ Value.ofJson d = .ok v) ∧
    (∀ items, Scalar.listOfJsonText text round = .ok items ↔
      Value.ofJson d = .ok (.sequence items)) ∧
    ((Scalar.ofJsonText text round = .error .unfit ↔ ∃ cause, d.NoScalar cause) ∧
      ((∃ e, Scalar.ofJson d = .error e) ↔ ∃ cause, d.NoScalar cause)) ∧
    ((Value.ofJsonText text round = .error .unfit ↔ ∃ cause, d.NoValue cause) ∧
      ((∃ e, Value.ofJson d = .error e) ↔ ∃ cause, d.NoValue cause)) ∧
    (∀ n, Scalar.ofJson d = .ok (.int n) ↔ d.integer? = some n.toInt) ∧
    (∀ z, d.integer? = some z ∨ text = toString z ∧ z.natAbs < UInt64.size →
      Scalar.ofJson d = .ok (Scalar.ofInteger z)) ∧
    (∀ z, text = toString z → UInt64.size ≤ z.natAbs →
      ∃ x, round (Numeral.ofInt z) = some x ∧ Scalar.ofJson d = .ok (.float x) ∧
        Scalar.ofJsonText text round = .ok (.float x)) ∧
    ∀ n, Scalar.ofJson d ≠ .error (.invalidArgument (.numberRange n)) ∧
      Value.ofJson d ≠ .error (.invalidArgument (.numberRange n)) := by
  have scalar : Scalar.ofJsonText text round = fit (Scalar.ofJson d).toOption := by
    rw [Scalar.ofJsonText, decodeText_of_read _ read, Scalar.decode?_eq]
  have value : Value.ofJsonText text round = fit (Value.ofJson d).toOption := by
    rw [Value.ofJsonText, decodeText_of_read _ read, Value.decode?_eq]
  have list : Scalar.listOfJsonText text round = fit (Scalar.decodeList? d) :=
    decodeArrayText_of_read _ read
  refine ⟨fun s => ?_, fun v => ?_, fun items => ?_, ⟨?_, Scalar.exists_error_iff⟩,
    ⟨?_, exists_error_iff⟩, fun n => Scalar.ofJson_eq_int_iff, fun z integer => ?_,
    fun z same long => ?_, fun n => ⟨fun refused => ?_, fun refused => ?_⟩⟩
  · rw [scalar, fit_toOption_eq_ok_iff]
  · rw [value, fit_toOption_eq_ok_iff]
  · rw [list, ← decodeList?_eq_some_iff]
    cases Scalar.decodeList? d <;> simp [fit]
  · rw [scalar, fit_toOption_eq_unfit_iff, Scalar.exists_error_iff]
  · rw [value, fit_toOption_eq_unfit_iff, exists_error_iff]
  · rcases integer with integer | ⟨rfl, short⟩
    · exact Scalar.ofJson_of_integer integer
    · obtain ⟨n, number, rfl⟩ := exists_number_of_read_toString read
      exact Numeral.ofJson_ofInt short number
  · subst same
    obtain ⟨n, number, rfl⟩ := exists_number_of_read_toString read
    rw [Numeral.toNumber_ofInt_of_size_le long] at number
    obtain ⟨x, rounded, rfl⟩ := Option.map_eq_some_iff.mp number
    exact ⟨x, rounded, rfl, scalar.trans (fit_toOption_eq_ok_iff.mpr rfl)⟩
  · obtain ⟨cause, unfit, same⟩ := Scalar.ofJson_eq_error_iff.mp refused
    exact unfit.ne_numberRange n (BuildError.invalidArgument.inj same).symm
  · obtain ⟨cause, unfit, same⟩ := noValue_of_error refused
    exact unfit.ne_numberRange n (BuildError.invalidArgument.inj same).symm

/-- The greatest integer and the one behind it, a zero below zero, a number with a point, and a
null among other items. The digits of the last integer are rounded by dropping those past 64 bits,
which gives the double before the nearest one. -/
theorem readers_agree_mixed :
    let before : Double := .ofBits .double 0x43f0000000000000
    let dropping : Rounding := fun _ => some before
    (∃ d, Json.read "[9223372036854775807,9223372036854775808,-0,1e0,\"1\"]" = some d ∧
      Value.ofJson d = .ok (.sequence
        [.int Int64.maxValue, .float (.ofBits .double 0x43e0000000000000),
          .float (.ofBits .double 0x8000000000000000),
          .float (.ofBits .double 0x3ff0000000000000), .text "1"])) ∧
    (∃ d, Json.read " [1, null ]" = some d ∧ ∃ cause, d.NoValue cause) ∧
    ∃ d, Json.read "18446744073709553665" dropping = some d ∧
      Scalar.ofJson d = .ok (.float before) ∧
      Scalar.ofJsonText "18446744073709553665" dropping = .ok (.float before) := by
  intro before dropping
  obtain ⟨numbers, readNumbers⟩ := Option.isSome_iff_exists.mp
    (show (Json.read "[9223372036854775807,9223372036854775808,-0,1e0,\"1\"]").isSome = true by
      decide +kernel)
  obtain ⟨items, readItems⟩ := Option.isSome_iff_exists.mp
    (show (Json.read " [1, null ]").isSome = true by decide +kernel)
  obtain ⟨wide, readWide⟩ := Option.isSome_iff_exists.mp
    (show (Json.read "18446744073709553665" dropping).isSome = true by decide +kernel)
  refine ⟨⟨numbers, readNumbers, ?_⟩, ⟨items, readItems, ?_⟩, ⟨wide, readWide, ?_⟩⟩
  · obtain ⟨_, values, _⟩ := readers_agree readNumbers
    exact (values _).mp (by decide +kernel)
  · obtain ⟨_, _, _, _, ⟨refusals, _⟩, _⟩ := readers_agree readItems
    exact refusals.mp (by decide +kernel)
  · obtain ⟨_, _, _, _, _, _, _, beyond, _⟩ := readers_agree readWide
    obtain ⟨x, rounded, document, text⟩ :=
      beyond 18446744073709553665 (by decide +kernel) (by decide)
    cases rounded
    exact ⟨document, text⟩

end Value

end SqlAssembly
