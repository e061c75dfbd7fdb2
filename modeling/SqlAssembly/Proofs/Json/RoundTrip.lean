import SqlAssembly.Proofs.Json.Agreement

/-!
# Scalars and values through JSON

The text of a scalar or a value holds no mark of its kind, and still both readers give back what
was written (`Value.jsonText_read_back`), and a double to the last bit if numerals are rounded to
nearest. A double that is not finite is written as null, and both readers refuse the text that it
stands in.
-/

namespace SqlAssembly

open Numeric Json

variable {round : Rounding}

def Scalar.jsonText (s : Scalar) : String := String.ofList (write s.toJson)

def Value.jsonText (v : Value) : String := String.ofList (write v.toJson)

/-! ## Sequences as texts -/

theorem ends_writeItems (items : List Json) (rest : List Char) :
    Numeral.Ends (writeItems items ++ rest) := by
  intro c hc
  cases items <;> cases hc <;> decide

theorem length_writeItems (items : List Json) : items.length < (writeItems items).length := by
  induction items with
  | nil => decide
  | cons item items ih =>
      rw [writeItems, List.length_cons, List.length_cons, List.length_append]
      omega

namespace Scalar

theorem readItems_write (correct : round.IsCorrect) (s : Scalar) (others : List Scalar)
    (steps depth : Nat) (enough : others.length < steps) (rest : List Char) :
    readItems round (steps + 1) depth
        (write s.toJson ++ (writeItems (others.map toJson) ++ rest)) =
      some ((s :: others).map toJson, rest) := by
  induction others generalizing s steps with
  | nil =>
      obtain ⟨steps, rfl⟩ := Nat.exists_eq_succ_of_ne_zero (Nat.ne_of_gt enough)
      have first := s.readValue_write correct steps depth (ends_writeItems [] rest)
      rw [readItems, List.map_nil, first]
      rfl
  | cons t others ih =>
      obtain ⟨steps, rfl⟩ := Nat.exists_eq_succ_of_ne_zero (Nat.ne_of_gt (Nat.zero_lt_of_lt enough))
      have first := s.readValue_write correct steps depth
        (ends_writeItems ((t :: others).map toJson) rest)
      have next := ih t steps (by simpa using enough)
      rw [readItems, first]
      simp only [List.map_cons, writeItems, List.cons_append, List.append_assoc]
      have comma (cs : List Char) : skipSpace (',' :: cs) = ',' :: cs := rfl
      rw [comma]
      simp only [next, Option.map_some, List.map_cons]

end Scalar

/-! ## Values as texts -/

namespace Value

theorem readValue_write (correct : round.IsCorrect) (v : Value) (steps depth : Nat)
    (enough : v.count ≤ steps) {rest : List Char} (stop : Numeral.Ends rest) :
    readValue round (steps + 2) (depth + 1) (write v.toJson ++ rest) = some (v.toJson, rest) := by
  cases v with
  | scalar s => exact s.readValue_write correct (steps + 1) (depth + 1) stop
  | sequence items =>
      cases items with
      | nil => rfl
      | cons s others =>
          have items := s.readItems_write correct others steps depth enough rest
          obtain ⟨c, cs, text, visible, inside⟩ := s.write_start
          have bracket (cs : List Char) : skipSpace ('[' :: cs) = '[' :: cs := rfl
          rw [text, List.cons_append] at items
          simp only [toJson, List.map_cons, write, text, List.cons_append, List.append_assoc]
          rw [readValue, bracket]
          simp only [skipSpace_cons visible]
          split
          · rename_i h
            exact absurd (List.cons.inj h).1 inside
          · rw [items]
            rfl

/-- The steps that reading a text is given are enough for a value of that text. -/
theorem count_lt_length_write (v : Value) : v.count < 2 * (write v.toJson).length := by
  cases v with
  | scalar s =>
      obtain ⟨c, cs, text, _⟩ := s.write_start
      change 1 < 2 * (write s.toJson).length
      rw [text, List.length_cons]
      omega
  | sequence items =>
      cases items with
      | nil => decide
      | cons s others =>
          have length := length_writeItems (others.map Scalar.toJson)
          rw [List.length_map] at length
          simp only [toJson, List.map_cons, write, List.length_cons, List.length_append, count,
            scalars]
          omega

theorem read_jsonText (correct : round.IsCorrect) (v : Value) :
    Json.read v.jsonText round = some v.toJson := by
  have enough := v.count_lt_length_write
  obtain ⟨steps, length⟩ : ∃ steps, 2 * (write v.toJson).length = steps + 1 :=
    Nat.exists_eq_succ_of_ne_zero (by omega)
  have first : readFirst round (write v.toJson) = some (v.toJson, []) := by
    have whole := v.readValue_write correct steps 126 (by omega) Numeral.ends_nil
    rw [List.append_nil] at whole
    rw [readFirst, length]
    exact whole
  rw [Json.read, jsonText, String.toList_ofList, first]
  rfl

/-! ## Values as documents -/

/-- Items that are read back one by one are read back together. -/
theorem mapM_map_of_pure {m : Type → Type} [Monad m] [LawfulMonad m] {α β : Type} {f : α → β}
    {read : β → m α} {xs : List α} (each : ∀ x ∈ xs, read (f x) = pure x) :
    (xs.map f).mapM read = pure xs := by
  induction xs with
  | nil => rfl
  | cons x xs ih =>
      have first := each x List.mem_cons_self
      have others := ih fun y hy => each y (List.mem_cons_of_mem x hy)
      rw [List.map_cons, List.mapM_cons, first, others, pure_bind, pure_bind]

/-- The document of a scalar is no array, so it is read as a scalar. -/
theorem ofJson_scalar (s : Scalar) : ofJson s.toJson = (Scalar.ofJson s.toJson).map .scalar := by
  cases s with
  | float x =>
      by_cases finite : x.IsFinite
      · rw [Scalar.toJson_of_finite finite]
        rfl
      · rw [Scalar.toJson_of_not_finite finite]
        rfl
  | _ => rfl

theorem ofJson_toJson {v : Value} (finite : ∀ s ∈ v.scalars, s.IsFinite) :
    ofJson v.toJson = .ok v := by
  cases v with
  | scalar s =>
      have read := Scalar.ofJson_toJson (finite s List.mem_cons_self)
      rw [toJson, ofJson_scalar, read]
      rfl
  | sequence items =>
      have read : (items.map Scalar.toJson).mapM Scalar.ofJson = .ok items :=
        mapM_map_of_pure fun s hs => Scalar.ofJson_toJson (finite s hs)
      rw [toJson, ofJson, read]
      rfl

theorem decode?_toJson {v : Value} (finite : ∀ s ∈ v.scalars, s.IsFinite) :
    decode? v.toJson = some v := by
  rw [decode?_eq, ofJson_toJson finite]
  rfl

theorem ofJson_toJson_of_not_finite {v : Value} (infinite : ∃ s ∈ v.scalars, ¬ s.IsFinite) :
    ofJson v.toJson = .error (.invalidArgument .nullScalar) := by
  obtain ⟨s, hs, infinite⟩ := infinite
  have null := Scalar.toJson_eq_null infinite
  cases v with
  | scalar t =>
      cases List.mem_singleton.mp hs
      rw [toJson, null]
      rfl
  | sequence items =>
      have each : ∀ d ∈ items.map Scalar.toJson, ∀ e, Scalar.ofJson d = .error e →
          e = .invalidArgument .nullScalar := by
        refine List.forall_mem_map.mpr fun t _ e error => ?_
        by_cases finite : t.IsFinite
        · rw [Scalar.ofJson_toJson finite] at error
          cases error
        · rw [Scalar.toJson_eq_null finite] at error
          cases error
          rfl
      have refused : ∃ d ∈ items.map Scalar.toJson,
          Scalar.ofJson d = .error (.invalidArgument .nullScalar) :=
        ⟨s.toJson, List.mem_map_of_mem hs, by rw [null]; rfl⟩
      rw [toJson, ofJson, Outcome.mapM_eq_error each refused]
      rfl

theorem decode?_toJson_of_not_finite {v : Value} (infinite : ∃ s ∈ v.scalars, ¬ s.IsFinite) :
    decode? v.toJson = none := by
  rw [decode?_eq, ofJson_toJson_of_not_finite infinite]
  rfl

/-! ## The text of a sequence -/

theorem ofList_writeItems (s : Scalar) (others : List Scalar) :
    String.ofList (write s.toJson ++ writeItems (others.map Scalar.toJson)) =
      ",".intercalate ((s :: others).map Scalar.jsonText) ++ "]" := by
  induction others generalizing s with
  | nil =>
      rw [List.map_nil, writeItems, String.ofList_append, List.map_singleton,
        String.intercalate_singleton]
      rfl
  | cons t others ih =>
      have comma (cs : List Char) : String.ofList (',' :: cs) = "," ++ String.ofList cs := by
        rw [← List.singleton_append, String.ofList_append]
      have next := ih t
      rw [List.map_cons] at next
      rw [List.map_cons, writeItems, String.ofList_append, comma, next, List.map_cons,
        List.map_cons, String.intercalate_cons_cons, String.append_assoc, String.append_assoc]
      rfl

/-- The items of a sequence are written like scalars, in brackets and with commas. -/
theorem jsonText_sequence (items : List Scalar) :
    (sequence items).jsonText = "[" ++ ",".intercalate (items.map Scalar.jsonText) ++ "]" := by
  cases items with
  | nil => rfl
  | cons s others =>
      have bracket (cs : List Char) : String.ofList ('[' :: cs) = "[" ++ String.ofList cs := by
        rw [← List.singleton_append, String.ofList_append]
      rw [jsonText, toJson, List.map_cons, write, bracket, ofList_writeItems, String.append_assoc]

/-! ## Both readers -/

/-- What is written is read back by both readers, kind and bits included, if numerals are rounded
to nearest. A double that is not finite is written as null, by itself and among the items of a
sequence, and both readers refuse a scalar or a value that has one. -/
theorem jsonText_read_back (correct : round.IsCorrect) :
    (∀ s : Scalar, s.IsFinite →
      Scalar.ofJsonText s.jsonText round = .ok s ∧
        (Json.read s.jsonText round).map Scalar.ofJson = some (.ok s)) ∧
    (∀ v : Value, (∀ s ∈ v.scalars, s.IsFinite) →
      Value.ofJsonText v.jsonText round = .ok v ∧
        (Json.read v.jsonText round).map Value.ofJson = some (.ok v)) ∧
    (∀ s : Scalar, ¬ s.IsFinite →
      s.jsonText = "null" ∧ Scalar.ofJsonText s.jsonText round = .error .unfit ∧
        (Json.read s.jsonText round).map Scalar.ofJson =
          some (.error (.invalidArgument .nullScalar))) ∧
    (∀ v : Value, (∃ s ∈ v.scalars, ¬ s.IsFinite) →
      Value.ofJsonText v.jsonText round = .error .unfit ∧
        (Json.read v.jsonText round).map Value.ofJson =
          some (.error (.invalidArgument .nullScalar))) ∧
    (∀ s : Scalar, (scalar s).jsonText = s.jsonText) ∧
    ∀ items : List Scalar,
      (sequence items).jsonText = "[" ++ ",".intercalate (items.map Scalar.jsonText) ++ "]" := by
  have scalarRead (s : Scalar) : Json.read s.jsonText round = some s.toJson :=
    read_jsonText correct (.scalar s)
  refine ⟨fun s finite => ?_, fun v finite => ?_, fun s infinite => ?_, fun v infinite => ?_,
    fun _ => rfl, jsonText_sequence⟩
  · constructor
    · rw [Scalar.ofJsonText, decodeText_of_read _ (scalarRead s), Scalar.decode?_toJson finite]
      rfl
    · rw [scalarRead, Option.map_some, Scalar.ofJson_toJson finite]
  · constructor
    · rw [Value.ofJsonText, decodeText_of_read _ (v.read_jsonText correct), decode?_toJson finite]
      rfl
    · rw [read_jsonText correct, Option.map_some, ofJson_toJson finite]
  · have null := Scalar.toJson_eq_null infinite
    refine ⟨by rw [Scalar.jsonText, null]; rfl, ?_, ?_⟩
    · rw [Scalar.ofJsonText, decodeText_of_read _ (scalarRead s), null]
      rfl
    · rw [scalarRead, Option.map_some, null]
      rfl
  · constructor
    · rw [Value.ofJsonText, decodeText_of_read _ (v.read_jsonText correct),
        decode?_toJson_of_not_finite infinite]
      rfl
    · rw [read_jsonText correct, Option.map_some, ofJson_toJson_of_not_finite infinite]

/-- A text that looks like a number, the least integer, a whole double and a zero below zero, and
an infinity among them. -/
theorem jsonText_read_back_mixed :
    let items : List Scalar :=
      [.text "1\n\"", .int Int64.minValue, .float (.ofBits .double 0x4024000000000000),
        .float (.ofBits .double 0x8000000000000000), .bool true]
    let infinity : Scalar := .float (.ofBits .double 0x7ff0000000000000)
    Rounding.nearest.IsCorrect ∧
      (sequence items).jsonText = "[\"1\\n\\\"\",-9223372036854775808,10.0,-0.0,true]" ∧
      Value.ofJsonText (sequence items).jsonText = .ok (sequence items) ∧
      infinity.jsonText = "null" ∧
      Value.ofJsonText (sequence (infinity :: items)).jsonText = .error .unfit := by
  intro items infinity
  obtain ⟨_, values, infinities, refusals, _⟩ := jsonText_read_back Rounding.isCorrect_nearest
  have finite : ∀ s ∈ (sequence items).scalars, s.IsFinite := by decide +kernel
  have infinite : ¬ infinity.IsFinite := by decide +kernel
  refine ⟨Rounding.isCorrect_nearest, by decide +kernel, ?_, ?_, ?_⟩
  · exact (values (sequence items) finite).1
  · exact (infinities infinity infinite).1
  · exact (refusals (sequence (infinity :: items)) ⟨infinity, List.mem_cons_self, infinite⟩).1

end Value

end SqlAssembly
