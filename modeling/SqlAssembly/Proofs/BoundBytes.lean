import SqlAssembly.Proofs.SingleBinding

/-!
# Bound bytes

The bytes that a scalar is bound with stand for the scalar. Each kind has its form on the wire
(`Scalar.WireForm`): integers and doubles most significant byte first, texts in UTF-8. Reading
the bytes by the type alone gives the scalar back, so that no two scalars share their bytes, except
where a double is rounded to a single (`Scalar.encode_decodes`).
-/

namespace SqlAssembly

open Numeric

/-! ## Numbers of bytes -/

/-- The number that bytes stand for, the most significant first. -/
def unsigned (bytes : List UInt8) : Nat := bytes.foldl (fun n b => n * 256 + b.toNat) 0

/-- The number that bytes stand for in two's complement: the upper half of all numbers of so many
bytes lies below zero. -/
def signed (bytes : List UInt8) : Int := (unsigned bytes : Int).bmod (256 ^ bytes.length)

@[simp] theorem length_bigEndian (width n : Nat) : (bigEndian width n).length = width := by
  induction width generalizing n with
  | zero => rfl
  | succ width ih => simp [bigEndian, ih]

theorem unsigned_append_singleton (bytes : List UInt8) (b : UInt8) :
    unsigned (bytes ++ [b]) = unsigned bytes * 256 + b.toNat := by
  rw [unsigned, List.foldl_append]
  rfl

theorem unsigned_bigEndian (width n : Nat) : unsigned (bigEndian width n) = n % 256 ^ width := by
  induction width generalizing n with
  | zero => simp [bigEndian, unsigned, Nat.mod_one]
  | succ width ih =>
      have low : (UInt8.ofNat n).toNat = n % 256 := UInt8.toNat_ofNat'
      rw [bigEndian, unsigned_append_singleton, ih, low, Nat.pow_succ', Nat.mod_mul]
      omega

theorem unsigned_bigEndian_of_lt {width n : Nat} (fits : n < 256 ^ width) :
    unsigned (bigEndian width n) = n := by
  rw [unsigned_bigEndian, Nat.mod_eq_of_lt fits]

/-- The low bytes of a 64-bit integer are the integer up to a multiple of what they can hold. -/
theorem signed_bigEndian {width : Nat} (narrow : width ≤ 8) (n : Int64) :
    signed (bigEndian width n.toUInt64.toNat) = n.toInt.bmod (256 ^ width) := by
  have whole : n.toInt = (n.toUInt64.toNat : Int).bmod (256 ^ 8) :=
    BitVec.toInt_eq_toNat_bmod n.toBitVec
  have divides : 256 ^ width ∣ 256 ^ 8 := Nat.pow_dvd_pow 256 narrow
  rw [signed, unsigned_bigEndian, length_bigEndian, Int.natCast_mod, Int.emod_bmod, whole,
    Int.bmod_bmod_of_dvd divides]

theorem signed_bigEndian_of_fits {width : Nat} (narrow : width ≤ 8) {n : Int64}
    (low : -(256 ^ width : Nat) ≤ n.toInt * 2) (high : n.toInt * 2 < (256 ^ width : Nat)) :
    signed (bigEndian width n.toUInt64.toNat) = n.toInt := by
  rw [signed_bigEndian narrow, Int.bmod_eq_of_le_mul_two low high]

/-- An integer within the bounds of a type is sent in the type's width, and in two's complement if
the bounds are no wider. -/
theorem signed_of_encodeInt {width : Nat} (narrow : width ≤ 8) {least greatest : Int}
    (low : -(256 ^ width : Nat) ≤ least * 2) (high : greatest * 2 < (256 ^ width : Nat))
    {n : Int64} {bytes : List UInt8} (bound : encodeInt width least greatest n = .ok bytes) :
    bytes.length = width ∧ signed bytes = n.toInt := by
  rw [encodeInt] at bound
  split at bound
  · cases bound
    refine ⟨length_bigEndian _ _, signed_bigEndian_of_fits narrow ?_ ?_⟩ <;> omega
  · cases bound

/-! ## Numbers of bits -/

namespace Numeric.BinaryFloat

open BinaryFormat

variable {f : BinaryFormat}

theorem bits_lt (x : BinaryFloat f) : x.bits < f.codeCount * 2 := by
  have code := x.code_lt
  rw [bits]
  split <;> omega

theorem ofBits_bits (x : BinaryFloat f) : ofBits f x.bits = x := by
  have code := x.code_lt
  have positive : 0 < f.codeCount := twoPow_pos _
  cases sign : x.negative with
  | true =>
      apply eq_of_negative_of_code
      · simp [ofBits, bits, sign, Nat.add_div_left _ positive, Nat.div_eq_of_lt code]
      · simp [ofBits, bits, sign, Nat.mod_eq_of_lt code]
  | false =>
      apply eq_of_negative_of_code
      · simp [ofBits, bits, sign, Nat.div_eq_of_lt code]
      · simp [ofBits, bits, sign, Nat.mod_eq_of_lt code]

theorem unsigned_bigEndian_bits (x : BinaryFloat f) {width : Nat}
    (wide : f.codeCount * 2 ≤ 256 ^ width) : unsigned (bigEndian width x.bits) = x.bits :=
  unsigned_bigEndian_of_lt (Nat.lt_of_lt_of_le x.bits_lt wide)

/-- A double that is not beyond the greatest single stays finite as a single. -/
theorem isFinite_convert_single {x : Double} (finite : x.IsFinite)
    (small : x.code ≤ greatestSingle) : (x.convert .single).IsFinite := by
  have magnitude : double.magnitude x.code < single.middle greatest :=
    calc double.magnitude x.code
      _ ≤ double.magnitude greatestSingle := magnitude_strictMono.monotone small
      _ = single.magnitude greatest := magnitude_greatestSingle
      _ < single.middle greatest := magnitude_lt_middle greatest
  have code : double.recode single x.code ≤ greatest :=
    BinaryFormat.nearest_le (twoPow_pos _) magnitude
  rw [IsFinite, code_convert finite]
  exact Nat.lt_of_le_of_lt code (by decide)

end Numeric.BinaryFloat

/-! ## Forms on the wire -/

namespace Scalar

/-- What the bytes of a scalar are, by its kind and the type. -/
inductive WireForm : Scalar → PgType → List UInt8 → Prop where
  | int2 {n : Int64} {bytes : List UInt8} (length : bytes.length = 2)
      (value : signed bytes = n.toInt) : WireForm (.int n) (.builtin .int2) bytes
  | int4 {n : Int64} {bytes : List UInt8} (length : bytes.length = 4)
      (value : signed bytes = n.toInt) : WireForm (.int n) (.builtin .int4) bytes
  | int8 {n : Int64} {bytes : List UInt8} (length : bytes.length = 8)
      (value : signed bytes = n.toInt) : WireForm (.int n) (.builtin .int8) bytes
  | bool (b : Bool) : WireForm (.bool b) (.builtin .bool) [if b then 1 else 0]
  | float8 {x : Double} {bytes : List UInt8} (length : bytes.length = 8)
      (bits : unsigned bytes = x.bits) : WireForm (.float x) (.builtin .float8) bytes
  | float4 {x : Double} {bytes : List UInt8} (length : bytes.length = 4)
      (rounded : ¬ x.IsNaN → x.RoundsTo (.ofBits .single (unsigned bytes))) :
      WireForm (.float x) (.builtin .float4) bytes
  /-- Three types expect a version before the text. -/
  | text (s : String) {type : PgType} (takes : type.takesText = true) :
      WireForm (.text s) type
        ((if type.typeName ∈ ["ltree", "lquery", "ltxtquery"] then [1] else []) ++
          s.toList.flatMap String.utf8EncodeChar)

end Scalar

theorem toUTF8_eq_flatMap (s : String) :
    s.toUTF8.data.toList = s.toList.flatMap String.utf8EncodeChar := by
  rw [String.toUTF8_eq_toByteArray, ← String.utf8Encode_toList, List.utf8Encode,
    List.toList_data_toByteArray]

theorem PgType.isVersioned_iff {type : PgType} :
    type.isVersioned = true ↔ type.typeName ∈ ["ltree", "lquery", "ltxtquery"] := by
  simp [isVersioned, or_assoc]

theorem encodeText_eq (type : PgType) (s : String) :
    encodeText type s = (if type.typeName ∈ ["ltree", "lquery", "ltxtquery"] then [1] else []) ++
      s.toList.flatMap String.utf8EncodeChar := by
  rw [encodeText, toUTF8_eq_flatMap]
  simp only [PgType.isVersioned_iff]

theorem wireForm_encodeSingle {x : Double} {bytes : List UInt8}
    (bound : encodeSingle x = .ok bytes) :
    (Scalar.float x).WireForm (.builtin .float4) bytes := by
  rw [encodeSingle] at bound
  split at bound
  · cases bound
  · rename_i inside
    cases bound
    refine .float4 (length_bigEndian _ _) fun number => ?_
    rw [BinaryFloat.unsigned_bigEndian_bits _ (by decide), BinaryFloat.ofBits_bits]
    refine BinaryFloat.roundsTo_convert (by decide) number fun finite => ?_
    have small : x.code ≤ greatestSingle := Nat.not_lt.mp fun large => inside ⟨finite, large⟩
    exact BinaryFloat.isFinite_convert_single finite small

namespace Scalar

theorem wireForm_of_encode {s : Scalar} {type : PgType} {bytes : List UInt8}
    (bound : s.encode type = .ok bytes) : s.WireForm type bytes := by
  revert bound
  fun_cases encode s type with
  | case1 _ s takes =>
      rintro ⟨⟩
      rw [encodeText_eq]
      exact .text s takes
  | case3 n =>
      intro bound
      obtain ⟨length, value⟩ := signed_of_encodeInt (by decide) (by decide) (by decide) bound
      exact .int2 length value
  | case4 n =>
      intro bound
      obtain ⟨length, value⟩ := signed_of_encodeInt (by decide) (by decide) (by decide) bound
      exact .int4 length value
  | case5 n =>
      rintro ⟨⟩
      have low := n.le_toInt
      have high := n.toInt_lt
      have value : signed (bigEndian 8 n.toUInt64.toNat) = n.toInt :=
        signed_bigEndian_of_fits (by decide) (by omega) (by omega)
      exact .int8 (length_bigEndian _ _) value
  | case7 x => exact wireForm_encodeSingle
  | case8 x =>
      rintro ⟨⟩
      exact .float8 (length_bigEndian _ _) (x.unsigned_bigEndian_bits (by decide))
  | case10 b =>
      rintro ⟨⟩
      exact .bool b
  | case2 | case6 | case9 | case11 => exact nofun

end Scalar

/-! ## Reading by the type -/

/-- What the bytes stand for by the type alone. -/
def PgType.decode (type : PgType) (bytes : List UInt8) : Option Scalar :=
  if type.takesText then
    (String.fromUTF8? (if type.isVersioned then bytes.tail else bytes).toByteArray).map .text
  else
    match type with
    | .builtin .int2 | .builtin .int4 | .builtin .int8 => some (.int (Int64.ofInt (signed bytes)))
    | .builtin .float4 =>
        some (.float ((Numeric.BinaryFloat.ofBits .single (unsigned bytes)).convert .double))
    | .builtin .float8 => some (.float (.ofBits .double (unsigned bytes)))
    | .builtin .bool => some (.bool (bytes = [1]))
    | _ => none

theorem fromUTF8?_utf8EncodeChar (s : String) :
    String.fromUTF8? (s.toList.flatMap String.utf8EncodeChar).toByteArray = some s := by
  have bytes : (s.toList.flatMap String.utf8EncodeChar).toByteArray = s.toByteArray :=
    String.utf8Encode_toList
  rw [bytes, String.fromUTF8?, dif_pos s.isValidUTF8]
  rfl

namespace Scalar

/-- The scalar is no double, or a double that a single equals. -/
def IsSingle : Scalar → Prop
  | .float x => ¬ x.IsNaN ∧ (x.IsFinite → ∃ y : Single, y.IsFinite ∧ y.value = x.value)
  | _ => True

theorem WireForm.decode_eq {s : Scalar} {type : PgType} {bytes : List UInt8}
    (form : s.WireForm type bytes) (single : type = .builtin .float4 → s.IsSingle) :
    type.decode bytes = some s := by
  cases form with
  | int2 _ value | int4 _ value | int8 _ value =>
      rw [PgType.decode, if_neg (by decide), value, Int64.ofInt_toInt]
  | bool b => cases b <;> rfl
  | float8 _ bits => rw [PgType.decode, if_neg (by decide), bits, BinaryFloat.ofBits_bits]
  | float4 _ rounded =>
      obtain ⟨number, exact⟩ := single rfl
      rw [PgType.decode, if_neg (by decide), (rounded number).convert_eq number exact]
  | text s takes =>
      unfold PgType.decode
      rw [if_pos takes]
      by_cases versioned : type.isVersioned
      · rw [if_pos versioned, if_pos (PgType.isVersioned_iff.mp versioned), List.singleton_append,
          List.tail_cons, fromUTF8?_utf8EncodeChar]
        rfl
      · rw [if_neg versioned, if_neg (mt PgType.isVersioned_iff.mpr versioned), List.nil_append,
          fromUTF8?_utf8EncodeChar]
        rfl

/-- What is bound has the form of its kind and type, and is what the bytes stand for by the type,
except for a double that no single equals and that is bound as one. So the bytes tell apart all
other scalars that can be bound to one type. -/
theorem encode_decodes {s : Scalar} {type : PgType} {bytes : List UInt8}
    (bound : s.encode type = .ok bytes) :
    s.WireForm type bytes ∧
    ((type = .builtin .float4 → s.IsSingle) → type.decode bytes = some s) ∧
    ∀ t : Scalar, t.encode type = .ok bytes →
      (type = .builtin .float4 → s.IsSingle ∧ t.IsSingle) → s = t := by
  have form := wireForm_of_encode bound
  refine ⟨form, form.decode_eq, fun t other singles => ?_⟩
  have own := form.decode_eq fun float4 => (singles float4).1
  have others := (wireForm_of_encode other).decode_eq fun float4 => (singles float4).2
  exact Option.some.inj (own.symm.trans others)

/-- One half. -/
def half : Double := .ofBits .double 0x3fe0000000000000

theorem isSingle_half : (float half).IsSingle := by
  refine ⟨by decide, fun _ => ⟨.ofBits .single 0x3f000000, by decide, ?_⟩⟩
  have magnitude : BinaryFormat.single.magnitude 0x3f000000 =
      BinaryFormat.double.magnitude 0x3fe0000000000000 :=
    BinaryFormat.magnitude_eq_of_units (by decide +kernel)
  exact magnitude

/-- An integer below zero, a text of a tree type, the double nearest to one tenth as a single, and
one half, which is a single. -/
theorem encode_decodes_kinds :
    (int (-2)).WireForm (.builtin .int2) [0xff, 0xfe] ∧
    (PgType.user "ltree" "public").decode [1, 0xc3, 0xa9] = some (text "é") ∧
    (float (.ofBits .double 0x3fb999999999999a)).WireForm (.builtin .float4)
      [0x3d, 0xcc, 0xcc, 0xcd] ∧
    (PgType.builtin .float4).decode [0x3f, 0, 0, 0] = some (float half) ∧
    ∀ t : Scalar, t.encode (.builtin .float8) = .ok [0x3f, 0xe0, 0, 0, 0, 0, 0, 0] →
      float half = t := by
  refine ⟨?_, ?_, ?_, ?_, fun t other => ?_⟩
  · exact (encode_decodes (by decide +kernel)).1
  · exact (encode_decodes (by decide +kernel)).2.1 nofun
  · exact (encode_decodes (by decide +kernel)).1
  · exact (encode_decodes (by decide +kernel)).2.1 fun _ => isSingle_half
  · exact (encode_decodes (by decide +kernel)).2.2 t other nofun

end Scalar

end SqlAssembly
