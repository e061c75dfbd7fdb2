import SqlAssembly.Query

/-!
# Steps

The steps that configure a query, as data. A run of steps leaves out those that refuse their
input and goes on with the query as it was.
-/

namespace SqlAssembly

inductive Step where
  | fromTable (table : String)
  | fromTableAs (table aliasName : String)
  | fromNames (names : List String)
  | project (columns : List String)
  | projectAll
  | join (join : Join)
  | require (group : Group)
  | orElse (group : Group)
  | orderBy (key : SortKey)
  | clearOrder
  | groupBy (columns : List String)
  | limit (n : Int64)
  | offset (n : Int64)
  | page (page size : Int64)
  | assign (assignments : List Assignment)

namespace Query

def step (q : Query) : Step → Except BuildError Query
  | .fromTable table => q.fromTable table
  | .fromTableAs table aliasName => q.fromTableAs table aliasName
  | .fromNames names => q.fromNames names
  | .project columns => .ok (q.project columns)
  | .projectAll => .ok q.projectAll
  | .join join => .ok (q.join join)
  | .require group => .ok (q.require group)
  | .orElse group => .ok (q.orElse group)
  | .orderBy key => .ok (q.orderBy key)
  | .clearOrder => .ok q.clearOrder
  | .groupBy columns => .ok (q.groupBy columns)
  | .limit n => .ok (q.setLimit n)
  | .offset n => .ok (q.setOffset n)
  | .page page size => q.setPage page size
  | .assign assignments => .ok (q.assign assignments)

/-- The query after a step, unchanged if the step was refused. -/
def advance (q : Query) (s : Step) : Query :=
  match q.step s with
  | .ok next => next
  | .error _ => q

def run (q : Query) (steps : List Step) : Query := steps.foldl advance q

@[simp] theorem run_nil (q : Query) : q.run [] = q := rfl

@[simp] theorem run_cons (q : Query) (s : Step) (steps : List Step) :
    q.run (s :: steps) = (q.advance s).run steps := rfl

theorem run_append (q : Query) (first second : List Step) :
    q.run (first ++ second) = (q.run first).run second := by
  simp [run, List.foldl_append]

end Query

end SqlAssembly
