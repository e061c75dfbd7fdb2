import SqlAssembly.Query.Statement

/-!
# Reports

What a sink is told about a built statement: the table's name without quotes, the operation,
the text, and the scalar of every condition that has exactly one. The operation is given as
SELECT whichever statement was built, and scalars of sequences and assignments are not told.
-/

namespace SqlAssembly

def Condition.parameter? (c : Condition) : Option Attribute :=
  match c.value with
  | some (.scalar s) => some ⟨"db.query.parameter." ++ c.column, s.display⟩
  | _ => none

namespace Query

/-- The conditions in the order of the text: required groups first. -/
def conditions (q : Query) : List Condition :=
  (q.filter.required ++ q.filter.alternatives).flatten

def sourceAttribute (q : Query) : List Attribute :=
  match q.source with
  | none => []
  | some table => [⟨"db.collection.name", table.table.name⟩]

/-- The attributes of a statement with the given text, in the order of reporting. -/
def report (q : Query) (sql : String) : List Attribute :=
  q.sourceAttribute ++
    [⟨"db.operation.name", "SELECT"⟩, ⟨"db.query.text", sql⟩] ++
    q.conditions.filterMap Condition.parameter?

def statementEvent (kind : Statement.Kind) (statement : Statement) : Event where
  level := .debug
  target := "pgqb.sql"
  span := none
  fields :=
    [("query_type", kind.name), ("param_count", toString statement.arguments.size),
      ("sql", statement.sql)]

end Query

end SqlAssembly
