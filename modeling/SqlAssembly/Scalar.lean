import SqlAssembly.Numeric.BinaryFloat

/-!
# Scalars

A scalar is one value that a statement carries: a text, a 64-bit integer, a double or a truth
value. It has two texts, a plain one for people and a literal one for SQL.
-/

namespace SqlAssembly

open Numeric

inductive Scalar where
  | text (s : String)
  | int (n : Int64)
  | float (x : Double)
  | bool (b : Bool)
deriving DecidableEq

namespace Scalar

def kind : Scalar → String
  | .text _ => "text"
  | .int _ => "int"
  | .float _ => "float"
  | .bool _ => "bool"

/-- The plain text: a text is shown as it is, without quotes. -/
def display : Scalar → String
  | .text s => s
  | .int n => toString n.toInt
  | .float x => x.display
  | .bool b => if b then "true" else "false"

/-- The SQL literal. A text is put between apostrophes and nothing in it is escaped, so only
trusted text may be written inline. -/
def literal : Scalar → String
  | .text s => "'" ++ s ++ "'"
  | s => s.display

/-- Every scalar but an infinite double or one that is no number. -/
def IsFinite : Scalar → Prop
  | .float x => x.IsFinite
  | _ => True

instance (s : Scalar) : Decidable s.IsFinite :=
  match s with
  | .text _ => isTrue trivial
  | .int _ => isTrue trivial
  | .float x => inferInstanceAs (Decidable x.IsFinite)
  | .bool _ => isTrue trivial

/-- Equality of values: kinds must agree, and doubles are compared as numbers. It differs from
`=` only on zeros of different sign and on doubles that are no number. -/
def ValueEq : Scalar → Scalar → Prop
  | .text s, .text t => s = t
  | .int m, .int n => m = n
  | .float x, .float y => x.NumericEq y
  | .bool a, .bool b => a = b
  | _, _ => False

instance (s t : Scalar) : Decidable (s.ValueEq t) := by
  cases s <;> cases t <;> simp only [ValueEq] <;> infer_instance

end Scalar

/-! ## Native values -/

/-- Types whose values are scalars. -/
class ToScalar (α : Type) where
  toScalar : α → Scalar

export ToScalar (toScalar)

instance : ToScalar Scalar := ⟨id⟩

instance : ToScalar String := ⟨.text⟩

instance : ToScalar Bool := ⟨.bool⟩

instance : ToScalar Int8 := ⟨fun n => .int n.toInt64⟩

instance : ToScalar Int16 := ⟨fun n => .int n.toInt64⟩

instance : ToScalar Int32 := ⟨fun n => .int n.toInt64⟩

instance : ToScalar Int64 := ⟨.int⟩

instance : ToScalar UInt8 := ⟨fun n => .int (Int64.ofNat n.toNat)⟩

instance : ToScalar UInt16 := ⟨fun n => .int (Int64.ofNat n.toNat)⟩

instance : ToScalar UInt32 := ⟨fun n => .int (Int64.ofNat n.toNat)⟩

instance : ToScalar Double := ⟨.float⟩

/-- A single goes through its shortest decimal, so that it is displayed as it was written. -/
instance : ToScalar Single := ⟨fun x => .float (x.widen .double)⟩

end SqlAssembly
