import Mathlib.Data.List.Basic
import SqlAssembly.Scalar

/-!
# Characters of displayed scalars

Numbers and truth values are displayed with letters, digits, minus signs and points alone
(`Scalar.isPlain_of_mem_literal`), so nothing in their literals can be taken for a parenthesis, a
quote or a placeholder.
-/

namespace SqlAssembly

def IsPlain (c : Char) : Prop := c.isAlphanum = true ∨ c = '-' ∨ c = '.'

instance (c : Char) : Decidable (IsPlain c) := inferInstanceAs (Decidable (_ ∨ _ ∨ _))

theorem isPlain_of_mem {cs : List Char} (plain : cs.all (IsPlain ·) = true) {c : Char}
    (h : c ∈ cs) : IsPlain c :=
  of_decide_eq_true (List.all_eq_true.mp plain c h)

theorem isPlain_of_mem_toDigits {n : Nat} {c : Char} (h : c ∈ Nat.toDigits 10 n) : IsPlain c := by
  have digit : c.isDigit = true := Nat.isDigit_of_mem_toDigits (by decide) (by decide) h
  left
  rw [Char.isAlphanum, digit, Bool.or_true]

theorem isPlain_of_mem_toString {n : Int} {c : Char} (h : c ∈ (toString n).toList) :
    IsPlain c := by
  rw [Int.toString_eq_repr, Int.repr_eq_if] at h
  split at h
  · rw [Nat.toList_repr] at h
    exact isPlain_of_mem_toDigits h
  · rw [String.toList_append, List.mem_append, Nat.toList_repr] at h
    rcases h with sign | digits
    · exact isPlain_of_mem (by decide) sign
    · exact isPlain_of_mem_toDigits digits

namespace Numeric

theorem Decimal.isPlain_of_mem_positional {d : Decimal} {c : Char} (h : c ∈ d.positional) :
    IsPlain c := by
  have digits : ∀ c ∈ d.digits, IsPlain c := fun c => isPlain_of_mem_toDigits
  have zero : IsPlain '0' := by decide
  have point : IsPlain '.' := by decide
  have zeros {n : Nat} (hc : c ∈ List.replicate n '0') : IsPlain c := by
    rw [(List.mem_replicate.mp hc).2]
    exact zero
  unfold positional at h
  dsimp only at h
  split at h
  · rcases List.mem_append.mp h with hd | hz
    · exact digits c hd
    · exact zeros hz
  · split at h
    · rcases List.mem_append.mp h with hd | hp
      · exact digits c (List.mem_of_mem_take hd)
      · rcases List.mem_cons.mp hp with rfl | hd
        · exact point
        · exact digits c (List.mem_of_mem_drop hd)
    · rcases List.mem_cons.mp h with rfl | hp
      · exact zero
      · rcases List.mem_cons.mp hp with rfl | hd
        · exact point
        · rcases List.mem_append.mp hd with hz | hd
          · exact zeros hz
          · exact digits c hd

theorem BinaryFloat.isPlain_of_mem_display {f : BinaryFormat} {x : BinaryFloat f} {c : Char}
    (h : c ∈ x.display.toList) : IsPlain c := by
  have sign (hc : c ∈ x.signText) : IsPlain c := by
    unfold signText at hc
    split at hc
    · exact isPlain_of_mem (by decide) hc
    · cases hc
  rw [display, String.toList_ofList] at h
  split at h
  · exact isPlain_of_mem (by decide) h
  · split at h
    · rcases List.mem_append.mp h with hs | hd
      · exact sign hs
      · split at hd
        · exact isPlain_of_mem (by decide) hd
        · exact Decimal.isPlain_of_mem_positional hd
    · rcases List.mem_append.mp h with hs | hi
      · exact sign hs
      · exact isPlain_of_mem (by decide) hi

end Numeric

def Scalar.text? : Scalar → Option String
  | .text t => some t
  | _ => none

theorem Scalar.isPlain_of_mem_literal {s : Scalar} (notText : s.text? = none) {c : Char}
    (h : c ∈ s.literal.toList) : IsPlain c := by
  cases s with
  | text t => cases notText
  | int n => exact isPlain_of_mem_toString h
  | float x => exact Numeric.BinaryFloat.isPlain_of_mem_display h
  | bool b =>
      cases b with
      | true => exact isPlain_of_mem (by decide) h
      | false => exact isPlain_of_mem (by decide) h

end SqlAssembly
