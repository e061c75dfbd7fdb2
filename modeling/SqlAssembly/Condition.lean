import SqlAssembly.Identifier
import SqlAssembly.Text.Blank
import SqlAssembly.Value

/-!
# Conditions and assignments

A condition compares one column; an assignment sets one. Columns and operators are trusted text
that is copied into the statement, so only what could never be written is refused: blank columns
and operators, empty lists, and doubles that SQL has no literal for. The refusal is part of the
types: a condition or an assignment that exists can be written.
-/

namespace SqlAssembly

open Text

/-! ## Faults of a value -/

/-- A double that is not finite is a fault of the column it is meant for. -/
def Scalar.fault? (column : String) : Scalar → Option ArgumentFault
  | .float x => if x.IsFinite then none else some (.nonFinite x column)
  | _ => none

/-- The first fault: an empty sequence, otherwise that of the first scalar that has one. -/
def Value.fault? (column operator : String) : Value → Option ArgumentFault
  | .scalar s => s.fault? column
  | .sequence [] => some (.emptyList column operator)
  | .sequence items => items.findSome? (·.fault? column)

theorem Scalar.fault?_eq_none_iff (column : String) (s : Scalar) :
    s.fault? column = none ↔ s.IsFinite := by
  cases s with
  | float x => by_cases h : x.IsFinite <;> simp [Scalar.fault?, Scalar.IsFinite, h]
  | _ => simp [Scalar.fault?, Scalar.IsFinite]

theorem Value.fault?_eq_none_iff (column operator : String) (v : Value) :
    v.fault? column operator = none ↔ v.Sound := by
  match v with
  | .scalar s => simp [Value.fault?, Value.Sound, Value.scalars, Scalar.fault?_eq_none_iff]
  | .sequence [] => simp [Value.fault?, Value.Sound, Value.scalars]
  | .sequence (s :: items) =>
      simp only [Value.fault?, Value.Sound, Value.scalars, List.findSome?_eq_none_iff,
        Scalar.fault?_eq_none_iff]
      simp

/-! ## Conditions -/

/-- A column, an operator and possibly a value. A condition without a value is written as column
and operator alone. -/
structure Condition where
  column : String
  operator : String
  value : Option Value
  column_visible : isBlank column = false
  operator_visible : isBlank operator = false
  value_sound : ∀ v, value = some v → v.Sound
deriving DecidableEq

namespace Condition

/-- Checks the column, then the operator, then the value. -/
def make (column operator : String) (value : Option Value) : Except BuildError Condition :=
  match blankColumn : isBlank column with
  | true => .error (.invalidArgument .emptyColumn)
  | false =>
      match blankOperator : isBlank operator with
      | true => .error (.unsupportedOperator operator)
      | false =>
          match fault : value.bind (Value.fault? column operator) with
          | some cause => .error (.invalidArgument cause)
          | none =>
              .ok
                { column, operator, value
                  column_visible := blankColumn
                  operator_visible := blankOperator
                  value_sound := fun v present => by
                    rw [present] at fault
                    exact (Value.fault?_eq_none_iff column operator v).mp fault }

def unary (column operator : String) : Except BuildError Condition := make column operator none

def binary (column operator : String) (value : Value) : Except BuildError Condition :=
  make column operator (some value)

/-- The operator is `IN` or `NOT IN`, whatever the case of its letters and the blanks around
it. -/
def isListOperator (c : Condition) : Bool :=
  let word := (trimChars c.operator.toList).map Char.toLower
  word = "in".toList || word = "not in".toList

/-! ## The common operators -/

def eq (column : String) (s : Scalar) : Except BuildError Condition :=
  binary column "=" (.scalar s)

def ne (column : String) (s : Scalar) : Except BuildError Condition :=
  binary column "!=" (.scalar s)

def gt (column : String) (s : Scalar) : Except BuildError Condition :=
  binary column ">" (.scalar s)

def gte (column : String) (s : Scalar) : Except BuildError Condition :=
  binary column ">=" (.scalar s)

def lt (column : String) (s : Scalar) : Except BuildError Condition :=
  binary column "<" (.scalar s)

def lte (column : String) (s : Scalar) : Except BuildError Condition :=
  binary column "<=" (.scalar s)

def like (column : String) (pattern : Scalar) : Except BuildError Condition :=
  binary column "LIKE" (.scalar pattern)

def ilike (column : String) (pattern : Scalar) : Except BuildError Condition :=
  binary column "ILIKE" (.scalar pattern)

def isNull (column : String) : Except BuildError Condition := unary column "IS NULL"

def isNotNull (column : String) : Except BuildError Condition := unary column "IS NOT NULL"

def inList (column : String) (items : List Scalar) : Except BuildError Condition :=
  binary column "IN" (.sequence items)

def notIn (column : String) (items : List Scalar) : Except BuildError Condition :=
  binary column "NOT IN" (.sequence items)

def between (column : String) (low high : Scalar) : Except BuildError Condition :=
  binary column "BETWEEN" (.sequence [low, high])

def notBetween (column : String) (low high : Scalar) : Except BuildError Condition :=
  binary column "NOT BETWEEN" (.sequence [low, high])

end Condition

/-! ## Assignments -/

structure Assignment where
  column : String
  value : Scalar
  column_visible : isBlank column = false
  value_finite : value.IsFinite
deriving DecidableEq

namespace Assignment

def make (column : String) (value : Scalar) : Except BuildError Assignment :=
  match blank : isBlank column with
  | true => .error (.invalidArgument .emptyColumn)
  | false =>
      match fault : value.fault? column with
      | some cause => .error (.invalidArgument cause)
      | none =>
          .ok
            { column, value
              column_visible := blank
              value_finite := (Scalar.fault?_eq_none_iff column value).mp fault }

end Assignment

end SqlAssembly
