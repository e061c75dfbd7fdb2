import SqlAssembly.Proofs.BoundBytes

/-!
# Accepted types

What can be bound is told in two places: acceptance looks at the type alone, and the encoder at
the scalar as well. Both are measured by one relation, that a type is of the scalar's kind and can
hold the scalar (`Scalar.Fits`). Encoding succeeds exactly then (`Scalar.encode_ok_iff`) and fails
for exactly one reason otherwise (`Scalar.encode_error_iff`), and a type is accepted exactly if
some scalar fits it. So checking the type first changes no outcome but the wording of one error
(`Scalar.encode_agrees_accepts`).
-/

namespace SqlAssembly

open Numeric BinaryFormat

/-! ## Kinds of types -/

namespace PgType

/-- The types of texts: five of the catalog, and four that extensions define and that are known by
name alone. -/
def IsTextual (type : PgType) : Prop :=
  type ∈ [.builtin .varchar, .builtin .text, .builtin .bpchar, .builtin .name,
      .builtin .unknown] ∨
    type.typeName ∈ ["citext", "ltree", "lquery", "ltxtquery"]

instance (type : PgType) : Decidable type.IsTextual := inferInstanceAs (Decidable (_ ∨ _))

/-- The types of integers, doubles and truth values. -/
def IsSimple (type : PgType) : Prop :=
  type ∈ [.builtin .int2, .builtin .int4, .builtin .int8, .builtin .float4, .builtin .float8,
    .builtin .bool]

instance (type : PgType) : Decidable type.IsSimple := inferInstanceAs (Decidable (_ ∈ _))

theorem takesText_iff {type : PgType} : type.takesText = true ↔ type.IsTextual := by
  have known : (type.typeName = "citext" || type.isVersioned) = true ↔
      type.typeName ∈ ["citext", "ltree", "lquery", "ltxtquery"] := by
    rw [Bool.or_eq_true, decide_eq_true_iff, isVersioned_iff]
    exact List.mem_cons.symm
  unfold takesText
  split
  case h_6 varchar text bpchar name unknown =>
    have other : ¬ type ∈ [.builtin .varchar, .builtin .text, .builtin .bpchar, .builtin .name,
        .builtin .unknown] := by
      simpa using ⟨varchar, text, bpchar, name, unknown⟩
    rw [known, IsTextual, or_iff_right other]
  all_goals exact iff_of_true rfl (.inl (by decide))

theorem accepts_iff {type : PgType} : type.accepts = true ↔ type.IsTextual ∨ type.IsSimple := by
  unfold accepts
  rw [Bool.or_eq_true, takesText_iff]
  split
  case h_7 int2 int4 int8 float4 float8 bool =>
    have other : ¬ type.IsSimple := by
      simpa [IsSimple] using ⟨int2, int4, int8, float4, float8, bool⟩
    exact or_congr_right (iff_of_false (by decide) other)
  all_goals exact or_congr_right (iff_of_true rfl (by decide))

theorem isTextual_user_iff (name schema : String) :
    (PgType.user name schema).IsTextual ↔ name ∈ ["citext", "ltree", "lquery", "ltxtquery"] := by
  simp [IsTextual, typeName]

end PgType

/-! ## Scalars that fit -/

/-- The greatest finite single. -/
def largestSingle : ℚ := (2 ^ 24 - 1) * 2 ^ 104

namespace Scalar

def carrier : Scalar → Carrier
  | .text _ => .text
  | .int _ => .int
  | .float _ => .float
  | .bool _ => .bool

/-- The type is of the scalar's kind. -/
def Suits : Scalar → PgType → Prop
  | .text _, type => type.IsTextual
  | .int _, type => type ∈ [.builtin .int2, .builtin .int4, .builtin .int8]
  | .float _, type => type ∈ [.builtin .float4, .builtin .float8]
  | .bool _, type => type = .builtin .bool

/-- The type is of the scalar's kind and can hold it. Infinite doubles and those that are no number
fit both widths. -/
inductive Fits : Scalar → PgType → Prop where
  | text (s : String) {type : PgType} (textual : type.IsTextual) : Fits (.text s) type
  | int2 {n : Int64} (low : -2 ^ 15 ≤ n.toInt) (high : n.toInt < 2 ^ 15) :
      Fits (.int n) (.builtin .int2)
  | int4 {n : Int64} (low : -2 ^ 31 ≤ n.toInt) (high : n.toInt < 2 ^ 31) :
      Fits (.int n) (.builtin .int4)
  | int8 (n : Int64) : Fits (.int n) (.builtin .int8)
  | float4 {x : Double} (small : x.IsFinite → |x.value| ≤ largestSingle) :
      Fits (.float x) (.builtin .float4)
  | float8 (x : Double) : Fits (.float x) (.builtin .float8)
  | bool (b : Bool) : Fits (.bool b) (.builtin .bool)

/-- The reason why the scalar does not fit: the type is of another kind, or it is too narrow for
the integer or the double. -/
inductive Misfit : Scalar → PgType → BindError → Prop where
  | kind {s : Scalar} {type : PgType} (other : ¬ s.Suits type) :
      Misfit s type (.wrongType s.carrier type)
  | int2 {n : Int64} (outside : n.toInt < -2 ^ 15 ∨ 2 ^ 15 ≤ n.toInt) :
      Misfit (.int n) (.builtin .int2) .intRange
  | int4 {n : Int64} (outside : n.toInt < -2 ^ 31 ∨ 2 ^ 31 ≤ n.toInt) :
      Misfit (.int n) (.builtin .int4) .intRange
  | float4 {x : Double} (finite : x.IsFinite) (large : largestSingle < |x.value|) :
      Misfit (.float x) (.builtin .float4) (.floatRange x)

theorem Fits.suits {s : Scalar} {type : PgType} (h : s.Fits type) : s.Suits type := by
  cases h with
  | text s textual => exact textual
  | int2 | int4 | int8 | float4 | float8 | bool => simp [Suits]

theorem Misfit.not_fits {s : Scalar} {type : PgType} {e : BindError} (h : s.Misfit type e) :
    ¬ s.Fits type := by
  intro fits
  cases h with
  | kind other => exact other fits.suits
  | int2 outside | int4 outside =>
      cases fits
      omega
  | float4 finite large =>
      cases fits with
      | float4 small => exact absurd (small finite) (not_le.mpr large)

theorem Misfit.unique {s : Scalar} {type : PgType} {e e' : BindError} (h : s.Misfit type e)
    (h' : s.Misfit type e') : e = e' := by
  cases h with
  | kind other =>
      cases h' with
      | kind => rfl
      | int2 | int4 | float4 => exact absurd (by simp [Suits]) other
  | int2 | int4 | float4 =>
      cases h' with
      | kind other => exact absurd (by simp [Suits]) other
      | _ => rfl

end Scalar

/-! ## Encoding -/

theorem magnitude_greatest : single.magnitude greatest = largestSingle := by
  have units : single.units greatest = (2 ^ 24 - 1) * 2 ^ 253 := by decide +kernel
  have scale : twoPow single.scale = 2 ^ 149 := rfl
  rw [magnitude, units, scale, largestSingle]
  norm_num

theorem Numeric.BinaryFloat.abs_value {f : BinaryFormat} (x : BinaryFloat f) :
    |x.value| = f.magnitude x.code := by
  have nonneg := f.magnitude_nonneg x.code
  rw [BinaryFloat.value]
  split
  · rw [abs_neg, abs_of_nonneg nonneg]
  · rw [abs_of_nonneg nonneg]

theorem greatestSingle_lt_iff {x : Double} :
    greatestSingle < x.code ↔ largestSingle < |x.value| := by
  rw [x.abs_value, ← magnitude_greatest, ← magnitude_greatestSingle, magnitude_strictMono.lt_iff_lt]

theorem encodeInt_cases (width : Nat) (least greatest : Int) (n : Int64) :
    (least ≤ n.toInt ∧ n.toInt ≤ greatest ∧ ∃ bytes, encodeInt width least greatest n = .ok bytes) ∨
      (n.toInt < least ∨ greatest < n.toInt) ∧
        encodeInt width least greatest n = .error .intRange := by
  rw [encodeInt]
  by_cases inside : least ≤ n.toInt ∧ n.toInt ≤ greatest
  · rw [if_pos inside]
    exact .inl ⟨inside.1, inside.2, _, rfl⟩
  · rw [if_neg inside]
    exact .inr ⟨by omega, rfl⟩

theorem encodeSingle_cases (x : Double) :
    ((x.IsFinite → |x.value| ≤ largestSingle) ∧ ∃ bytes, encodeSingle x = .ok bytes) ∨
      x.IsFinite ∧ largestSingle < |x.value| ∧ encodeSingle x = .error (.floatRange x) := by
  rw [encodeSingle]
  by_cases outside : x.IsFinite ∧ greatestSingle < x.code
  · rw [if_pos outside]
    exact .inr ⟨outside.1, greatestSingle_lt_iff.mp outside.2, rfl⟩
  · rw [if_neg outside]
    refine .inl ⟨fun finite => ?_, _, rfl⟩
    exact not_lt.mp fun large => outside ⟨finite, greatestSingle_lt_iff.mpr large⟩

namespace Scalar

/-- Every outcome of encoding is the one that the relations tell. -/
theorem outcome_encode (s : Scalar) (type : PgType) :
    (s.Fits type ∧ ∃ bytes, s.encode type = .ok bytes) ∨
      ∃ e, s.Misfit type e ∧ s.encode type = .error e := by
  fun_cases encode s type with
  | case1 type s takes => exact .inl ⟨.text s (PgType.takesText_iff.mp takes), _, rfl⟩
  | case2 type s takes => exact .inr ⟨_, .kind (mt PgType.takesText_iff.mpr takes), rfl⟩
  | case3 n =>
      have least : Int16.minValue.toInt = -2 ^ 15 := rfl
      have greatest : Int16.maxValue.toInt = 2 ^ 15 - 1 := rfl
      rcases encodeInt_cases 2 Int16.minValue.toInt Int16.maxValue.toInt n with
        ⟨low, high, sent⟩ | ⟨outside, refused⟩
      · exact .inl ⟨.int2 low (by omega), sent⟩
      · exact .inr ⟨_, .int2 (by omega), refused⟩
  | case4 n =>
      have least : Int32.minValue.toInt = -2 ^ 31 := rfl
      have greatest : Int32.maxValue.toInt = 2 ^ 31 - 1 := rfl
      rcases encodeInt_cases 4 Int32.minValue.toInt Int32.maxValue.toInt n with
        ⟨low, high, sent⟩ | ⟨outside, refused⟩
      · exact .inl ⟨.int4 low (by omega), sent⟩
      · exact .inr ⟨_, .int4 (by omega), refused⟩
  | case5 n => exact .inl ⟨.int8 n, _, rfl⟩
  | case6 type n int2 int4 int8 =>
      have other : ¬ (int n).Suits type := by simpa [Suits] using ⟨int2, int4, int8⟩
      exact .inr ⟨_, .kind other, rfl⟩
  | case7 x =>
      rcases encodeSingle_cases x with ⟨small, sent⟩ | ⟨finite, large, refused⟩
      · exact .inl ⟨.float4 small, sent⟩
      · exact .inr ⟨_, .float4 finite large, refused⟩
  | case8 x => exact .inl ⟨.float8 x, _, rfl⟩
  | case9 type x float4 float8 =>
      have other : ¬ (float x).Suits type := by simpa [Suits] using ⟨float4, float8⟩
      exact .inr ⟨_, .kind other, rfl⟩
  | case10 b => exact .inl ⟨.bool b, _, rfl⟩
  | case11 type b other => exact .inr ⟨_, .kind other, rfl⟩

variable {s : Scalar} {type : PgType}

theorem encode_ok_iff : (∃ bytes, s.encode type = .ok bytes) ↔ s.Fits type := by
  rcases s.outcome_encode type with ⟨fits, sent⟩ | ⟨e, misfit, refused⟩
  · exact iff_of_true sent fits
  · refine iff_of_false ?_ misfit.not_fits
    rintro ⟨bytes, sent⟩
    rw [refused] at sent
    cases sent

theorem encode_error_iff {e : BindError} : s.encode type = .error e ↔ s.Misfit type e := by
  rcases s.outcome_encode type with ⟨fits, bytes, sent⟩ | ⟨e', misfit, refused⟩
  · refine iff_of_false ?_ fun misfit => misfit.not_fits fits
    rw [sent]
    exact nofun
  · rw [refused, Except.error.injEq]
    constructor
    · rintro rfl
      exact misfit
    · exact misfit.unique

/-! ## Agreement -/

theorem Suits.accepts (suits : s.Suits type) : type.accepts = true := by
  rw [PgType.accepts_iff]
  cases s with
  | text s => exact .inl suits
  | int n =>
      simp only [Suits, List.mem_cons, List.not_mem_nil, or_false] at suits
      rcases suits with rfl | rfl | rfl <;> exact .inr (by decide)
  | float x =>
      simp only [Suits, List.mem_cons, List.not_mem_nil, or_false] at suits
      rcases suits with rfl | rfl <;> exact .inr (by decide)
  | bool b =>
      rw [show type = .builtin .bool from suits]
      exact .inr (by decide)

theorem exists_fits_of_accepts (accepted : type.accepts = true) : ∃ s : Scalar, s.Fits type := by
  rcases PgType.accepts_iff.mp accepted with textual | simple
  · exact ⟨_, .text "" textual⟩
  · simp only [PgType.IsSimple, List.mem_cons, List.not_mem_nil, or_false] at simple
    rcases simple with rfl | rfl | rfl | rfl | rfl | rfl
    · exact ⟨.int 0, .int2 (by decide) (by decide)⟩
    · exact ⟨.int 0, .int4 (by decide) (by decide)⟩
    · exact ⟨_, .int8 0⟩
    · exact ⟨.float (.nan .double), .float4 fun finite => absurd finite (by decide)⟩
    · exact ⟨_, .float8 (.nan .double)⟩
    · exact ⟨_, .bool true⟩

theorem encode_of_not_accepts (refused : type.accepts = false) (s : Scalar) :
    s.encode type = .error (.wrongType s.carrier type) := by
  have other : ¬ s.Suits type := fun suits => by
    rw [suits.accepts] at refused
    cases refused
  exact encode_error_iff.mpr (.kind other)

theorem encodeChecked_ok_iff {bytes : List UInt8} :
    s.encodeChecked type = .ok bytes ↔ s.encode type = .ok bytes := by
  rw [encodeChecked]
  cases accepted : type.accepts with
  | true => rw [if_pos rfl]
  | false =>
      rw [if_neg (by decide), encode_of_not_accepts accepted]
      exact iff_of_false nofun nofun

theorem fits_user_iff {name schema : String} :
    s.Fits (.user name schema) ↔
      (∃ t, s = .text t) ∧ name ∈ ["citext", "ltree", "lquery", "ltxtquery"] := by
  rw [← PgType.isTextual_user_iff name schema]
  constructor
  · intro fits
    cases fits with
    | text t textual => exact ⟨⟨t, rfl⟩, textual⟩
  · rintro ⟨⟨t, rfl⟩, textual⟩
    exact .text t textual

/-- Acceptance and encoding agree. With the check of the type or without it the same scalars are
sent as the same bytes, which are those that fit the type, and what does not fit fails for its own
reason. To a type that is not accepted every scalar is of the wrong type, and the check says so of
scalars as such. An accepted type is one that some scalar is sent as, and there the check changes
nothing. Of the types of users four are accepted, for their names and in every schema, and for
texts alone; none is taken for a built-in type of its name. -/
theorem encode_agrees_accepts (s : Scalar) (type : PgType) :
    (∀ bytes, s.encodeChecked type = .ok bytes ↔ s.encode type = .ok bytes) ∧
    ((∃ bytes, s.encode type = .ok bytes) ↔ s.Fits type) ∧
    (∀ e, s.encode type = .error e ↔ s.Misfit type e) ∧
    (type.accepts = false →
      s.encode type = .error (.wrongType s.carrier type) ∧
        s.encodeChecked type = .error (.wrongType .scalar type)) ∧
    (type.accepts = true →
      s.encodeChecked type = s.encode type ∧
        ∃ t : Scalar, ∃ bytes, t.encode type = .ok bytes) ∧
    (type.accepts = true ↔ type.IsTextual ∨ type.IsSimple) ∧
    (∀ name schema, type = .user name schema →
      (type.accepts = true ↔ name ∈ ["citext", "ltree", "lquery", "ltxtquery"]) ∧
        (s.Fits type ↔
          (∃ t, s = .text t) ∧ name ∈ ["citext", "ltree", "lquery", "ltxtquery"])) := by
  refine ⟨fun bytes => encodeChecked_ok_iff, encode_ok_iff, fun e => encode_error_iff, ?_, ?_,
    PgType.accepts_iff, ?_⟩
  · intro refused
    refine ⟨encode_of_not_accepts refused s, ?_⟩
    rw [encodeChecked, refused, if_neg (by decide)]
  · intro accepted
    obtain ⟨t, fits⟩ := exists_fits_of_accepts accepted
    refine ⟨?_, t, encode_ok_iff.mpr fits⟩
    rw [encodeChecked, if_pos accepted]
  · rintro name schema rfl
    refine ⟨?_, fits_user_iff⟩
    rw [PgType.accepts_iff, PgType.isTextual_user_iff, or_iff_left (by simp [PgType.IsSimple])]

/-- Integers on both sides of a bound, the double behind the greatest single, a user's type with
the name of a built-in one, and a type of trees in a schema of its own. -/
theorem encode_agrees_accepts_bounds :
    (int 32767).Fits (.builtin .int2) ∧
    (int 32768).Misfit (.builtin .int2) .intRange ∧
    (float (.ofBits .double (greatestSingle + 1))).Misfit (.builtin .float4)
      (.floatRange (.ofBits .double (greatestSingle + 1))) ∧
    (int 7).encodeChecked (.user "int4" "public") =
      .error (.wrongType .scalar (.user "int4" "public")) ∧
    (PgType.user "ltree" "trees").accepts = true := by
  refine ⟨?_, ?_, ?_, ?_, ?_⟩
  · exact (encode_agrees_accepts _ _).2.1.mp ⟨[0x7f, 0xff], by decide⟩
  · exact ((encode_agrees_accepts _ _).2.2.1 _).mp (by decide)
  · exact ((encode_agrees_accepts _ _).2.2.1 _).mp (by decide +kernel)
  · exact ((encode_agrees_accepts _ _).2.2.2.1 (by decide)).2
  · exact ((encode_agrees_accepts (text "a.b") _).2.2.2.2.2.2 _ _ rfl).1.mpr (by decide)

end Scalar

end SqlAssembly
