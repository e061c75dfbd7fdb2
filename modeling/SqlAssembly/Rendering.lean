import SqlAssembly.Arguments
import SqlAssembly.Condition
import SqlAssembly.Text.UpperCase

/-!
# Rendering conditions and assignments

One rendering runs through all parts of a statement that carry values. It hands out placeholder
numbers and collects the scalars behind them, so a part is numbered on from where the part
before it stopped. In literal mode the scalars of conditions are written into the text instead;
assignments are numbered in both modes.
-/

namespace SqlAssembly

/-- How the scalars of conditions reach the statement. -/
inductive Rendering.Mode where
  /-- As numbered placeholders, with the scalars as arguments. -/
  | placeholder
  /-- As SQL literals in the text. -/
  | literal
deriving DecidableEq

/-- The state of rendering one statement: the last number handed out and the scalars collected
so far. -/
structure Rendering where
  mode : Rendering.Mode
  counter : Nat
  arguments : Arguments

namespace Rendering

def start (mode : Rendering.Mode) : Rendering := ⟨mode, 0, .empty⟩

def placeholder (s : Scalar) (r : Rendering) : String × Rendering :=
  let number := r.counter + 1
  ("$" ++ toString number, { r with counter := number, arguments := r.arguments.push s })

def scalar (s : Scalar) (r : Rendering) : String × Rendering :=
  match r.mode with
  | .placeholder => r.placeholder s
  | .literal => (s.literal, r)

/-- Renders one item after the other, each going on from where the one before it stopped. -/
def each {α : Type} (render : α → Rendering → String × Rendering) :
    List α → Rendering → List String × Rendering
  | [], r => ([], r)
  | x :: xs, r =>
      let (text, r) := render x r
      let (texts, r) := each render xs r
      (text :: texts, r)

end Rendering

/-! ## Conditions -/

/-- The scalars of a value: a list in parentheses under a list operator, otherwise joined by
`AND`. A single scalar stands alone under every operator. -/
def Value.render (isList : Bool) (v : Value) (r : Rendering) : String × Rendering :=
  match v with
  | .scalar s => r.scalar s
  | .sequence items =>
      let (texts, r) := Rendering.each (fun s r => r.scalar s) items r
      if isList then ("(" ++ ", ".intercalate texts ++ ")", r)
      else (" AND ".intercalate texts, r)

def Condition.render (c : Condition) (r : Rendering) : String × Rendering :=
  let head := c.column ++ " " ++ Text.upper c.operator
  match c.value with
  | none => (head, r)
  | some v =>
      let (text, r) := v.render c.isListOperator r
      (head ++ " " ++ text, r)

/-! ## Groups and filters -/

/-- Conditions that must hold together. -/
abbrev Group := List Condition

def Group.render (group : Group) (r : Rendering) : String × Rendering :=
  let (texts, r) := Rendering.each Condition.render group r
  ("(" ++ " AND ".intercalate texts ++ ")", r)

/-- What the rows of a statement are chosen by: either all required groups hold, or one of the
alternatives does. -/
structure Filter where
  required : List Group
  alternatives : List Group

namespace Filter

def empty : Filter := ⟨[], []⟩

/-- The operands of the outermost `OR`: the required groups together are the first, if there
are any, and every alternative is one. No parentheses are put around the required groups,
because `AND` binds more tightly. -/
def operands (filter : Filter) (r : Rendering) : List String × Rendering :=
  match filter.required with
  | [] => Rendering.each Group.render filter.alternatives r
  | required =>
      let (texts, r) := Rendering.each Group.render required r
      let (others, r) := Rendering.each Group.render filter.alternatives r
      (" AND ".intercalate texts :: others, r)

/-- The WHERE clause with a blank before it; nothing for a filter without groups. -/
def render (filter : Filter) (r : Rendering) : String × Rendering :=
  if filter.required = [] ∧ filter.alternatives = [] then ("", r)
  else
    let (texts, r) := filter.operands r
    (" WHERE " ++ " OR ".intercalate texts, r)

end Filter

/-! ## Assignments -/

def Assignment.render (a : Assignment) (r : Rendering) : String × Rendering :=
  let (text, r) := r.placeholder a.value
  (a.column ++ " = " ++ text, r)

def Assignment.renderAll (assignments : List Assignment) (r : Rendering) : String × Rendering :=
  let (texts, r) := Rendering.each Assignment.render assignments r
  (", ".intercalate texts, r)

/-! ## Parts -/

/-- A part of a statement that carries values. Parts rendered one after the other share their
numbering. -/
inductive Part where
  | condition (c : Condition)
  | group (g : Group)
  | filter (f : Filter)
  | assignments (items : List Assignment)

def Part.render (part : Part) (r : Rendering) : String × Rendering :=
  match part with
  | .condition c => c.render r
  | .group g => g.render r
  | .filter f => f.render r
  | .assignments items => Assignment.renderAll items r

end SqlAssembly
