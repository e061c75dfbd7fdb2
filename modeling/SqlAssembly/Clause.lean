import SqlAssembly.Identifier
import SqlAssembly.Text.Blank
import SqlAssembly.Text.UpperCase

/-!
# Clauses without values

A sort key of ORDER BY and a join: clauses that are written from trusted text and names alone.
-/

namespace SqlAssembly

/-! ## Sort keys -/

structure SortKey where
  column : String
  direction : Option String
deriving DecidableEq

namespace SortKey

/-- The column in the database's own direction. -/
def plain (column : String) : SortKey := ⟨column, none⟩

def directed (key : SortKey) (direction : String) : SortKey :=
  { key with direction := some direction }

def ascending (column : String) : SortKey := (plain column).directed "asc"

def descending (column : String) : SortKey := (plain column).directed "desc"

/-- The direction is trimmed and written in upper case; a blank one is left out. -/
def sql (key : SortKey) : String :=
  match key.direction with
  | none => key.column
  | some direction =>
      let word := Text.trim direction
      if word = "" then key.column else key.column ++ " " ++ Text.upper word

end SortKey

/-! ## Joins -/

inductive JoinKind where
  | inner
  | left
  | right
  | full
deriving DecidableEq

namespace JoinKind

def sql : JoinKind → String
  | .inner => "INNER JOIN"
  | .left => "LEFT JOIN"
  | .right => "RIGHT JOIN"
  | .full => "FULL JOIN"

end JoinKind

/-- A joined table. The text after ON is trusted and copied as it is. -/
structure Join where
  target : TableReference
  on : String
  kind : JoinKind
deriving DecidableEq

namespace Join

/-- An inner join. -/
def make (table on : String) : Except BuildError Join := do
  let target ← TableReference.make table
  pure ⟨target, on, .inner⟩

def makeAs (table aliasName on : String) : Except BuildError Join := do
  let target ← TableReference.makeAs table aliasName
  pure ⟨target, on, .inner⟩

def ofKind (join : Join) (kind : JoinKind) : Join := { join with kind }

def sql (join : Join) : String :=
  join.kind.sql ++ " " ++ join.target.sql ++ " ON " ++ join.on

end Join

end SqlAssembly
