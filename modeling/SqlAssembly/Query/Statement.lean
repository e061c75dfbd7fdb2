import SqlAssembly.Query

/-!
# Statements

A query can be built into three statements: a SELECT of its rows, a SELECT that counts the same
rows, and an UPDATE of them. Building changes nothing, so a query may be built any number of
times. A query without a source leaves the place of the table empty.
-/

namespace SqlAssembly

/-- SQL text and its arguments in the order of the placeholders. -/
structure Statement where
  sql : String
  arguments : Arguments

namespace Statement

inductive Kind where
  | select
  | count
  | update
deriving DecidableEq

def Kind.name : Kind → String
  | .select => "Select"
  | .count => "SelectTotal"
  | .update => "Update"

def ValueEq (a b : Statement) : Prop := a.sql = b.sql ∧ a.arguments.ValueEq b.arguments

instance (a b : Statement) : Decidable (a.ValueEq b) := inferInstanceAs (Decidable (_ ∧ _))

end Statement

namespace Query

/-! ## Clauses as text -/

def projectionText (q : Query) : String :=
  match q.columns with
  | [] => "*"
  | columns => ", ".intercalate columns

def sourceText (q : Query) : String :=
  match q.source with
  | none => ""
  | some table => table.sql

def joinText (q : Query) : String := String.join (q.joins.map (" " ++ ·.sql))

def groupText (q : Query) : String :=
  match q.grouping with
  | [] => ""
  | columns => " GROUP BY " ++ ", ".intercalate columns

def orderText (q : Query) : String :=
  match q.ordering with
  | [] => ""
  | keys => " ORDER BY " ++ ", ".intercalate (keys.map SortKey.sql)

def limitText (q : Query) : String :=
  match q.limit with
  | none => ""
  | some n => " LIMIT " ++ toString n.toInt

def offsetText (q : Query) : String :=
  match q.offset with
  | none => ""
  | some n => " OFFSET " ++ toString n.toInt

/-! ## Building -/

def select (q : Query) : Statement :=
  let (condition, r) := q.filter.render (.start q.mode)
  { sql :=
      "SELECT " ++ q.projectionText ++ " FROM " ++ q.sourceText ++ q.joinText ++ condition ++
        q.groupText ++ q.orderText ++ q.limitText ++ q.offsetText
    arguments := r.arguments }

/-- Counts every row that the SELECT could return: projection, grouping, order and page are left
out. -/
def count (q : Query) : Statement :=
  let (condition, r) := q.filter.render (.start q.mode)
  { sql := "SELECT COUNT(*) AS total FROM " ++ q.sourceText ++ q.joinText ++ condition
    arguments := r.arguments }

/-- The assignments are numbered first, and the filter goes on from there. -/
def update (q : Query) : Statement :=
  let (assignments, r) := Assignment.renderAll q.assignments (.start q.mode)
  let (condition, r) := q.filter.render r
  { sql := "UPDATE " ++ q.sourceText ++ " SET " ++ assignments ++ condition
    arguments := r.arguments }

def build (q : Query) : Statement.Kind → Statement
  | .select => q.select
  | .count => q.count
  | .update => q.update

end Query

end SqlAssembly
