import SqlAssembly.Binding
import SqlAssembly.Proofs.Numeric.NearestEven
import SqlAssembly.Proofs.Numeric.Widening

/-!
# Singles bound as singles

A single is held as a double and narrowed again when it is bound as `real`. It arrives with its
own bytes except for two magnitudes (`Scalar.encode_single`): one is rounded twice to its
neighbour, because its shortest decimal is next to a middle between singles, and the greatest is
refused, because its shortest decimal is beyond it.
-/

namespace SqlAssembly

open Numeric

namespace Numeric.BinaryFormat

/-- The code whose shortest decimal is narrowed to the next code. -/
def twiceRounded : Nat := 0x15ae43fd

/-- The code of the greatest finite single. -/
def greatest : Nat := 0x7f7fffff

/-- The double that a single is widened to. -/
def widened (code : Nat) : Nat := (Decimal.shortest single .up code).nearest double

theorem widened_lt_codeCount (code : Nat) : widened code < double.codeCount :=
  double.nearest_lt_codeCount _ _

/-- What is known of a single's double from the rounding of its shortest decimal. -/
theorem widened_spec {code : Nat} (finite : code + 1 < single.infinity) :
    (code ∉ nearMiddles → code + 1 ∉ nearMiddles →
      double.recode single (widened (code + 1)) = code + 1) ∧
    widened (code + 1) < double.infinity ∧
      double.magnitude (widened (code + 1)) ≤ single.middle (code + 1) :=
  Decimal.recode_nearest_double finite (Decimal.nearest_shortest .up finite)
    (Decimal.withinDigit_shortest single .up (code + 1))

theorem recode_widened_near :
    ∀ code ∈ nearMiddles, double.recode single (widened (code + 1)) = code + 1 ∧
      double.recode single (widened code) = if code = twiceRounded then code + 1 else code := by
  decide +kernel

/-- Widening and narrowing gives back every single but one. -/
theorem recode_widened {code : Nat} (positive : code ≠ 0) (finite : code < single.infinity) :
    double.recode single (widened code) = if code = twiceRounded then code + 1 else code := by
  by_cases listed : code ∈ nearMiddles
  · exact (recode_widened_near code listed).2
  · have other : code ≠ twiceRounded := by
      rintro rfl
      exact listed (by decide)
    rw [if_neg other]
    obtain ⟨before, rfl⟩ := Nat.exists_eq_succ_of_ne_zero positive
    by_cases before_listed : before ∈ nearMiddles
    · exact (recode_widened_near before before_listed).1
    · exact (widened_spec finite).1 before_listed listed

theorem magnitude_greatestSingle : double.magnitude greatestSingle = single.magnitude greatest := by
  exact magnitude_eq_of_units (by decide +kernel)

/-- Every single below the greatest is widened to a double below the greatest single's. -/
theorem widened_lt {code : Nat} (positive : code ≠ 0) (less : code < greatest) :
    widened code < greatestSingle := by
  have finite : code < single.infinity := Nat.lt_trans less (by decide)
  obtain ⟨before, rfl⟩ := Nat.exists_eq_succ_of_ne_zero positive
  have below := (widened_spec finite).2.2
  have next : single.magnitude (before + 1 + 1) ≤ single.magnitude greatest :=
    magnitude_strictMono.monotone less
  have magnitude : double.magnitude (widened (before + 1)) < double.magnitude greatestSingle := by
    rw [magnitude_greatestSingle]
    exact (below.trans_lt (middle_lt_magnitude_succ _)).trans_le next
  exact magnitude_strictMono.lt_iff_lt.mp magnitude

theorem lt_widened_greatest : greatestSingle < widened greatest := by decide +kernel

end Numeric.BinaryFormat

/-! ## Binding -/

open BinaryFormat

namespace Numeric.BinaryFloat

/-- The bits that a finite number has in another format. -/
theorem bits_convert {f g : BinaryFormat} {x : BinaryFloat f} (finite : x.IsFinite) :
    (x.convert g).bits = (if x.negative then g.codeCount else 0) + f.recode g x.code := by
  rw [bits, negative_convert finite.not_isNaN, code_convert finite]

theorem widen_zero {x : Single} (zero : x.code = 0) :
    x.widen .double = { negative := x.negative, code := 0, code_lt := by decide } := by
  have finite : x.IsFinite := by
    rw [IsFinite, zero]
    decide
  rw [widen, if_neg finite.not_isNaN, if_pos finite, if_pos zero]

theorem widen_of_ne_zero {x : Single} (finite : x.IsFinite) (positive : x.code ≠ 0) :
    x.widen .double =
      { negative := x.negative, code := widened x.code, code_lt := widened_lt_codeCount _ } := by
  rw [widen, if_neg finite.not_isNaN, if_pos finite, if_neg positive]
  rfl

end Numeric.BinaryFloat

/-- A number and the next one differ in their last byte. -/
theorem bigEndian_succ_ne (width n : Nat) :
    bigEndian (width + 1) (n + 1) ≠ bigEndian (width + 1) n := by
  intro same
  have last := congrArg List.getLast? same
  simp only [bigEndian, List.getLast?_append, List.getLast?_singleton, Option.some_or,
    Option.some_inj] at last
  have byte := congrArg UInt8.toNat last
  rw [UInt8.toNat_ofNat', UInt8.toNat_ofNat'] at byte
  omega

theorem encodeSingle_of_le (negative : Bool) {code : Nat} (code_lt : code < double.codeCount)
    (small : code ≤ greatestSingle) :
    encodeSingle { negative, code, code_lt } = .ok (bigEndian 4
      ((if negative then single.codeCount else 0) + double.recode single code)) := by
  have finite : BinaryFloat.IsFinite (f := double) { negative, code, code_lt } :=
    Nat.lt_of_le_of_lt small (by decide +kernel)
  rw [encodeSingle, if_neg (fun refused => Nat.not_lt.mpr small refused.2),
    BinaryFloat.bits_convert finite]

/-- What a single below the greatest is sent as. -/
theorem encodeSingle_widen {x : Single} (less : x.code < greatest) :
    encodeSingle (x.widen .double) =
      .ok (bigEndian 4 (if x.code = twiceRounded then x.bits + 1 else x.bits)) := by
  have finite : x.IsFinite := Nat.lt_trans less (by decide)
  by_cases zero : x.code = 0
  · have narrowed : double.recode single 0 = 0 := by decide +kernel
    have other : x.code ≠ twiceRounded := by
      rw [zero]
      decide
    rw [BinaryFloat.widen_zero zero, encodeSingle_of_le _ _ (Nat.zero_le _), narrowed, if_neg other,
      BinaryFloat.bits, zero]
  · have below := widened_lt zero less
    rw [BinaryFloat.widen_of_ne_zero finite zero, encodeSingle_of_le _ _ (Nat.le_of_lt below),
      recode_widened zero finite, BinaryFloat.bits]
    by_cases twice : x.code = twiceRounded
    · rw [if_pos twice, if_pos twice, Nat.add_assoc]
    · rw [if_neg twice, if_neg twice]

/-- The greatest single is refused with either sign. -/
theorem encodeSingle_widen_greatest {x : Single} (top : x.code = greatest) :
    encodeSingle (x.widen .double) = .error (.floatRange (x.widen .double)) := by
  have finite : x.IsFinite := by
    rw [BinaryFloat.IsFinite, top]
    decide
  have positive : x.code ≠ 0 := by
    rw [top]
    decide
  have finite_double : widened greatest < double.infinity := by decide +kernel
  rw [BinaryFloat.widen_of_ne_zero finite positive, encodeSingle, if_pos]
  rw [BinaryFloat.IsFinite, top]
  exact ⟨finite_double, lt_widened_greatest⟩

namespace Scalar

/-- A finite single that is bound as `real` is sent as its own four bytes if and only if it is not
one of two magnitudes. The one is sent as the next single, and the other, the greatest, is
refused. -/
theorem encode_single {x : Single} (finite : x.IsFinite) :
    ((toScalar x).encode (.builtin .float4) = .ok (bigEndian 4 x.bits) ↔
        x.code ≠ twiceRounded ∧ x.code ≠ greatest) ∧
      (x.code = twiceRounded →
        (toScalar x).encode (.builtin .float4) = .ok (bigEndian 4 (x.bits + 1))) ∧
      (x.code = greatest →
        (toScalar x).encode (.builtin .float4) = .error (.floatRange (x.widen .double))) := by
  have encode : (toScalar x).encode (.builtin .float4) = encodeSingle (x.widen .double) := rfl
  rw [encode]
  have twice (h : x.code = twiceRounded) :
      encodeSingle (x.widen .double) = .ok (bigEndian 4 (x.bits + 1)) := by
    have sent := encodeSingle_widen (x := x) (by rw [h]; decide)
    rwa [if_pos h] at sent
  refine ⟨⟨?_, ?_⟩, twice, encodeSingle_widen_greatest⟩
  · intro own
    constructor
    · intro h
      have bytes := (twice h).symm.trans own
      injection bytes with bytes
      exact bigEndian_succ_ne 3 x.bits bytes
    · intro h
      rw [encodeSingle_widen_greatest h] at own
      cases own
  · rintro ⟨other, less⟩
    have below : x.code < greatest := by
      have most : x.code < greatest + 1 := finite
      omega
    have sent := encodeSingle_widen below
    rwa [if_neg other] at sent

/-- The single nearest to minus one tenth. -/
def tenth : Single := ⟨true, 0x3dcccccd, by decide⟩

/-- Minus one tenth keeps its bytes. -/
theorem encode_single_tenth :
    tenth.IsFinite ∧
      (toScalar tenth).encode (.builtin .float4) = .ok [0xbd, 0xcc, 0xcc, 0xcd] := by
  have finite : tenth.IsFinite := by decide
  have own := (encode_single finite).1.mpr ⟨by decide, by decide⟩
  exact ⟨finite, own.trans (by decide)⟩

/-- Both magnitudes are singles that a caller can give: 7.038531e-26 is sent as its neighbour, and
the greatest single is refused. -/
theorem encode_single_altered :
    ∃ small large : Single, small.IsFinite ∧ large.IsFinite ∧
      bigEndian 4 small.bits = [0x15, 0xae, 0x43, 0xfd] ∧
      (toScalar small).encode (.builtin .float4) = .ok [0x15, 0xae, 0x43, 0xfe] ∧
      bigEndian 4 large.bits = [0x7f, 0x7f, 0xff, 0xff] ∧
      ∃ x, (toScalar large).encode (.builtin .float4) = .error (.floatRange x) ∧
        (BindError.floatRange x).message =
          "float 340282350000000000000000000000000000000 out of range for FLOAT4" := by
  refine ⟨⟨false, twiceRounded, by decide⟩, ⟨false, greatest, by decide⟩, by decide, by decide,
    by decide, by decide +kernel, by decide, _, encodeSingle_widen_greatest rfl, ?_⟩
  decide +kernel

end Scalar

end SqlAssembly
