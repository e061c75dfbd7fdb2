import SqlAssembly.Scalar

/-!
# Values

What a condition compares its column with: one scalar, or several in order.
-/

namespace SqlAssembly

inductive Value where
  | scalar (s : Scalar)
  | sequence (items : List Scalar)
deriving DecidableEq

namespace Value

def scalars : Value → List Scalar
  | .scalar s => [s]
  | .sequence items => items

def count (v : Value) : Nat := v.scalars.length

/-- Only a sequence can be empty. -/
def isEmpty (v : Value) : Bool := v.scalars.isEmpty

/-- A value may stand in a condition if it has a scalar at all and every scalar is finite. -/
def Sound (v : Value) : Prop := v.scalars ≠ [] ∧ ∀ s ∈ v.scalars, s.IsFinite

instance (v : Value) : Decidable v.Sound := inferInstanceAs (Decidable (_ ∧ _))

def ofNative {α : Type} [ToScalar α] (x : α) : Value := .scalar (toScalar x)

def ofList {α : Type} [ToScalar α] (xs : List α) : Value := .sequence (xs.map toScalar)

@[simp] theorem scalars_ofNative {α : Type} [ToScalar α] (x : α) :
    (ofNative x).scalars = [toScalar x] := rfl

@[simp] theorem scalars_ofList {α : Type} [ToScalar α] (xs : List α) :
    (ofList xs).scalars = xs.map toScalar := rfl

end Value

end SqlAssembly
