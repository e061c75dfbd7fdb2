import SqlAssembly.Clause
import SqlAssembly.Config

/-!
# Queries

A query collects the clauses of one statement. Its steps either replace a clause, add to one or
clear one; each step says which, and no step touches a clause that it does not name. A step that
refuses its input gives no query back, so the one before it stays as it was.
-/

namespace SqlAssembly

structure Query where
  config : Config
  /-- The table of FROM, which is also the table that an UPDATE changes. -/
  source : Option TableReference
  /-- The projection; no columns stand for all. -/
  columns : List String
  joins : List Join
  filter : Filter
  grouping : List String
  ordering : List SortKey
  limit : Option Int64
  offset : Option Int64
  assignments : List Assignment

namespace Query

def new (config : Config) : Query :=
  { config, source := none, columns := [], joins := [], filter := .empty, grouping := [],
    ordering := [], limit := none, offset := none, assignments := [] }

def ofSettings (settings : List Setting) : Query := new (.ofSettings settings)

def mode (q : Query) : Rendering.Mode := q.config.mode

/-! ## Source and projection -/

def fromTable (q : Query) (table : String) : Except BuildError Query := do
  let table ← TableReference.make table
  pure { q with source := some table }

def fromTableAs (q : Query) (table aliasName : String) : Except BuildError Query := do
  let table ← TableReference.makeAs table aliasName
  pure { q with source := some table }

def fromNames (q : Query) (names : List String) : Except BuildError Query := do
  let table ← TableReference.ofNames names
  pure { q with source := some table }

/-- Replaces the projection. -/
def project (q : Query) (columns : List String) : Query := { q with columns }

def projectAll (q : Query) : Query := q.project []

def join (q : Query) (join : Join) : Query := { q with joins := q.joins ++ [join] }

/-! ## Filter -/

/-- Adds the conditions as one required group; no conditions add no group. -/
def require (q : Query) (group : Group) : Query :=
  if group = [] then q
  else { q with filter := { q.filter with required := q.filter.required ++ [group] } }

def orElse (q : Query) (group : Group) : Query :=
  if group = [] then q
  else { q with filter := { q.filter with alternatives := q.filter.alternatives ++ [group] } }

/-! ## Order, groups and page -/

def orderBy (q : Query) (key : SortKey) : Query := { q with ordering := q.ordering ++ [key] }

def clearOrder (q : Query) : Query := { q with ordering := [] }

/-- Replaces the grouping. -/
def groupBy (q : Query) (columns : List String) : Query := { q with grouping := columns }

def setLimit (q : Query) (n : Int64) : Query := { q with limit := some n }

def setOffset (q : Query) (n : Int64) : Query := { q with offset := some n }

/-- Limit and offset of a page, counted from one. The offset is computed as an integer without
bound and refused if 64 bits cannot hold it. -/
def setPage (q : Query) (page size : Int64) : Except BuildError Query :=
  if page < 1 then .error (.invalidArgument (.page page))
  else if size < 1 then .error (.invalidArgument (.pageSize size))
  else
    let start := (page.toInt - 1) * size.toInt
    if start ≤ Int64.maxValue.toInt then
      .ok { q with limit := some size, offset := some (Int64.ofInt start) }
    else .error (.invalidArgument (.offsetOverflow page size))

/-! ## Assignments -/

def assign (q : Query) (assignments : List Assignment) : Query :=
  { q with assignments := q.assignments ++ assignments }

/-- An UPDATE without assignments is no valid SQL. -/
def hasAssignments (q : Query) : Bool := !q.assignments.isEmpty

end Query

end SqlAssembly
