import Mathlib.Data.List.DropRight
import SqlAssembly.Proofs.Run.Independence

/-!
# Reading a run clause by clause

What a run of steps makes of a query can be read off the steps, clause by clause, without going
through the queries in between: some clauses collect, some keep the last word, and the order is
what was added since it was last cleared (`Query.run_eq_reading`). Steps that are refused leave
nothing behind, so a run is the chain of the steps that are taken (`Query.foldlM_taken`).
-/

namespace SqlAssembly

/-- The answer of the last item that has one. -/
def latest {α β : Type} (f : α → Option β) (xs : List α) : Option β := (xs.filterMap f).getLast?

@[simp] theorem latest_concat {α β : Type} (f : α → Option β) (xs : List α) (x : α) :
    latest f (xs ++ [x]) = (f x).or (latest f xs) := by
  cases h : f x <;> simp [latest, h]

/-! ## Configurations -/

namespace Config

/-- A call that changes a configuration, by itself or with a setting. -/
inductive Call where
  | inMode (mode : Rendering.Mode)
  | parameterize (on : Bool)
  | reportTo (sink : Sink)
  | adjust (setting : Setting)

def call (config : Config) : Call → Config
  | .inMode mode => config.inMode mode
  | .parameterize on => config.parameterize on
  | .reportTo sink => config.reportTo sink
  | .adjust setting => config.adjust setting

def ofCalls (calls : List Call) : Config := calls.foldl call default

namespace Call

def mode? : Call → Option Rendering.Mode
  | .inMode mode => some mode
  | .parameterize on | .adjust (.parameterize on) => some (if on then .placeholder else .literal)
  | .reportTo _ | .adjust (.sink _) => none

def sink? : Call → Option Sink
  | .reportTo sink | .adjust (.sink sink) => some sink
  | .inMode _ | .parameterize _ | .adjust (.parameterize _) => none

end Call

/-- The last mode and the last sink that the calls name. -/
def reading (calls : List Call) : Config where
  mode := (latest Call.mode? calls).getD .placeholder
  sink := latest Call.sink? calls

theorem call_reading (calls : List Call) (c : Call) :
    (reading calls).call c = reading (calls ++ [c]) := by
  cases c with
  | adjust setting =>
      cases setting <;>
        simp [reading, call, adjust, parameterize, inMode, reportTo, Call.mode?, Call.sink?]
  | _ => simp [reading, call, parameterize, inMode, reportTo, Call.mode?, Call.sink?]

theorem ofCalls_eq_reading (calls : List Call) : ofCalls calls = reading calls := by
  induction calls using List.reverseRecOn with
  | nil => rfl
  | append_singleton calls c ih =>
      rw [← call_reading, ← ih, ofCalls, ofCalls, List.foldl_append]
      rfl

/-- Settings are calls of one kind. -/
theorem ofSettings_eq_ofCalls (settings : List Setting) :
    ofSettings settings = ofCalls (settings.map .adjust) := by
  rw [ofSettings, ofCalls, List.foldl_map]
  rfl

end Config

/-! ## What a step says of a clause -/

namespace Step

def source? : Step → Option TableReference
  | .fromTable table => (TableReference.make table).toOption
  | .fromTableAs table aliasName => (TableReference.makeAs table aliasName).toOption
  | .fromNames names => (TableReference.ofNames names).toOption
  | _ => none

def columns? : Step → Option (List String)
  | .project columns => some columns
  | .projectAll => some []
  | _ => none

def join? : Step → Option Join
  | .join added => some added
  | _ => none

def grouping? : Step → Option (List String)
  | .groupBy columns => some columns
  | _ => none

def sortKey? : Step → Option SortKey
  | .orderBy key => some key
  | _ => none

def clearsOrder : Step → Bool
  | .clearOrder => true
  | _ => false

/-- A page that is refused says nothing. -/
def limit? : Step → Option Int64
  | .limit n => some n
  | .page n size => (pageStart? n size).map fun _ => size
  | _ => none

def offset? : Step → Option Int64
  | .offset n => some n
  | .page n size => pageStart? n size
  | _ => none

end Step

namespace Query

/-- The query that the calls and the steps describe. Source, projection, grouping, limit and
offset are the last ones named; joins, groups and assignments are all of them in order; the
order is what follows the last clearing. -/
def reading (calls : List Config.Call) (steps : List Step) : Query where
  config := .reading calls
  source := latest Step.source? steps
  columns := (latest Step.columns? steps).getD []
  joins := steps.filterMap Step.join?
  filter :=
    { required := steps.flatMap Step.required
      alternatives := steps.flatMap Step.alternatives }
  grouping := (latest Step.grouping? steps).getD []
  ordering := (steps.rtakeWhile (!·.clearsOrder)).filterMap Step.sortKey?
  limit := latest Step.limit? steps
  offset := latest Step.offset? steps
  assignments := steps.flatMap Step.assignments

theorem effect_reading (calls : List Config.Call) (steps : List Step) (s : Step) :
    (reading calls steps).effect s = reading calls (steps ++ [s]) := by
  cases s <;>
    simp [reading, effect, Step.source?, Step.columns?, Step.join?, Step.required,
      Step.alternatives, Step.grouping?, Step.sortKey?, Step.clearsOrder, Step.limit?,
      Step.offset?, Step.assignments]

theorem run_eq_reading (calls : List Config.Call) (steps : List Step) :
    (new (.ofCalls calls)).run steps = reading calls steps := by
  induction steps using List.reverseRecOn with
  | nil =>
      rw [Config.ofCalls_eq_reading]
      rfl
  | append_singleton steps s ih =>
      rw [run_append, ih, run_cons, run_nil, advance_eq_effect, effect_reading]

/-! ## Refused steps -/

/-- The steps that are not refused when their turn comes. -/
def taken (q : Query) : List Step → List Step
  | [] => []
  | s :: steps =>
      match q.step s with
      | .ok next => s :: next.taken steps
      | .error _ => q.taken steps

theorem foldlM_taken (q : Query) (steps : List Step) :
    (q.taken steps).foldlM step q = .ok (q.run steps) := by
  induction steps generalizing q with
  | nil => rfl
  | cons s steps ih =>
      rw [taken, run_cons, advance]
      cases h : q.step s with
      | ok next =>
          rw [List.foldlM_cons, h]
          exact ih next
      | error e => exact ih q

/-- A chain of steps that ends well is a run. -/
theorem run_of_foldlM {q result : Query} {steps : List Step}
    (h : steps.foldlM step q = .ok result) : q.run steps = result := by
  induction steps generalizing q with
  | nil =>
      injection h
  | cons s steps ih =>
      rw [List.foldlM_cons] at h
      rw [run_cons, advance]
      cases hs : q.step s with
      | ok next =>
          rw [hs] at h
          exact ih h
      | error e =>
          rw [hs] at h
          cases h

theorem run_taken (q : Query) (steps : List Step) : q.run (q.taken steps) = q.run steps :=
  run_of_foldlM (q.foldlM_taken steps)

/-! ## Whole runs -/

/-- A run of steps, refused ones included, is what its calls and steps say clause by clause. Left
to the steps that are taken, it is a chain that no step ends, and gives the same query. Two runs
give the same query if they have the same steps about each clause, in whatever order the steps
about different clauses come. -/
theorem run_clause_by_clause (settings : List Setting) (calls : List Config.Call)
    (steps : List Step) :
    let q := new (.ofCalls calls)
    ofSettings settings = new (.ofCalls (settings.map .adjust)) ∧
      q.run steps = reading calls steps ∧
      (q.taken steps).foldlM step q = .ok (q.run steps) ∧
      q.run (q.taken steps) = q.run steps ∧
      ∀ others : List Step,
        (∀ c, steps.filter (Step.concerns [c]) = others.filter (Step.concerns [c])) →
          q.run steps = q.run others := by
  intro q
  refine ⟨?_, run_eq_reading calls steps, q.foldlM_taken steps, q.run_taken steps, ?_⟩
  · rw [ofSettings, Config.ofSettings_eq_ofCalls]
  · intro others same
    refine eq_of_agreeOn fun c => ?_
    exact (AgreeOn.refl [c] q).run (same c)

/-- A refused page and a refused table between steps that count, and the same steps sorted by
clause. -/
theorem run_clause_by_clause_sorted :
    let q := new (.ofCalls [.adjust (.parameterize false), .reportTo .discard])
    let steps : List Step :=
      [.limit 5, .orderBy (.ascending "id"), .fromTable "users", .page 0 10, .clearOrder,
        .page 3 10, .fromTable "", .orderBy (.descending "age"), .offset 7]
    let sorted : List Step :=
      [.fromTable "users", .fromTable "", .limit 5, .page 0 10, .page 3 10, .offset 7,
        .orderBy (.ascending "id"), .clearOrder, .orderBy (.descending "age")]
    q.run steps = q.run sorted ∧ (q.run steps).mode = .literal ∧
      (q.run steps).source = (TableReference.make "users").toOption ∧
      (q.run steps).ordering = [.descending "age"] ∧
      (q.run steps).limit = some 10 ∧ (q.run steps).offset = some 7 := by
  intro q steps sorted
  have meaning := run_clause_by_clause [] [.adjust (.parameterize false), .reportTo .discard] steps
  refine ⟨meaning.2.2.2.2 sorted ?_, ?_⟩
  · intro c
    cases c <;> rfl
  · rw [meaning.2.1]
    decide

end Query

end SqlAssembly
