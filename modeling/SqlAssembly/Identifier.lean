import SqlAssembly.BuildError

/-!
# Identifiers

A table or alias name is always written between double quotes with every quote in it doubled,
as a whole: a point in it separates nothing. So any name that PostgreSQL can store may be used,
and none can end its own quotes.
-/

namespace SqlAssembly

/-- A name that can be quoted: not empty, and without the character that PostgreSQL cannot
store. -/
structure Identifier where
  name : String
  nonempty : name ≠ ""
  no_nul : '\x00' ∉ name.toList
deriving DecidableEq

namespace Identifier

def make (name : String) : Except BuildError Identifier :=
  if empty : name = "" then .error (.invalidArgument .emptyIdentifier)
  else if nul : '\x00' ∈ name.toList then .error (.invalidArgument .nulInIdentifier)
  else .ok ⟨name, empty, nul⟩

/-- A quote inside quotes is written twice. -/
def doubled (cs : List Char) : List Char :=
  cs.flatMap fun c => if c = '"' then ['"', '"'] else [c]

def sql (id : Identifier) : String :=
  "\"" ++ String.ofList (doubled id.name.toList) ++ "\""

theorem toList_sql (id : Identifier) :
    id.sql.toList = '"' :: (doubled id.name.toList ++ ['"']) := by
  simp [sql]

end Identifier

/-- A table, and the name that the statement calls it by if that differs. -/
structure TableReference where
  table : Identifier
  aliasName : Option Identifier
deriving DecidableEq

namespace TableReference

def make (table : String) : Except BuildError TableReference := do
  let table ← Identifier.make table
  pure ⟨table, none⟩

def makeAs (table aliasName : String) : Except BuildError TableReference := do
  let table ← Identifier.make table
  let aliasName ← Identifier.make aliasName
  pure ⟨table, some aliasName⟩

def ofNames : List String → Except BuildError TableReference
  | [table] => make table
  | [table, aliasName] => makeAs table aliasName
  | names => .error (.invalidArgument (.tableNames names.length))

def sql (t : TableReference) : String :=
  match t.aliasName with
  | none => t.table.sql
  | some aliasName => t.table.sql ++ " AS " ++ aliasName.sql

end TableReference

end SqlAssembly
