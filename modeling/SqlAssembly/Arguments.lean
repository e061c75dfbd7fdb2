import SqlAssembly.Scalar

/-!
# Arguments

The scalars that go with a statement: the first is bound to `$1`, the next to `$2`, and so on.
-/

namespace SqlAssembly

def Scalar.AllEq : List Scalar → List Scalar → Prop
  | [], [] => True
  | s :: ss, t :: ts => s.ValueEq t ∧ Scalar.AllEq ss ts
  | _, _ => False

instance Scalar.decidableAllEq : (ss ts : List Scalar) → Decidable (Scalar.AllEq ss ts)
  | [], [] => isTrue trivial
  | s :: ss, t :: ts =>
      have := Scalar.decidableAllEq ss ts
      inferInstanceAs (Decidable (s.ValueEq t ∧ Scalar.AllEq ss ts))
  | [], _ :: _ => isFalse id
  | _ :: _, [] => isFalse id

/-- Scalars in the order of their placeholders. -/
structure Arguments where
  items : Array Scalar
deriving DecidableEq

namespace Arguments

def empty : Arguments := ⟨#[]⟩

/-- The scalars in order: the view that all laws are stated on. -/
def toList (args : Arguments) : List Scalar := args.items.toList

def size (args : Arguments) : Nat := args.items.size

def isEmpty (args : Arguments) : Bool := args.items.isEmpty

/-- Adds a scalar at the end; its number is the new size. -/
def push (args : Arguments) (s : Scalar) : Arguments := ⟨args.items.push s⟩

def ValueEq (a b : Arguments) : Prop := Scalar.AllEq a.toList b.toList

instance (a b : Arguments) : Decidable (a.ValueEq b) :=
  inferInstanceAs (Decidable (Scalar.AllEq _ _))

@[simp] theorem toList_empty : empty.toList = [] := rfl

@[simp] theorem toList_push (args : Arguments) (s : Scalar) :
    (args.push s).toList = args.toList ++ [s] := by
  simp [push, toList]

@[simp] theorem length_toList (args : Arguments) : args.toList.length = args.size := by
  simp [toList, size]

end Arguments

end SqlAssembly
