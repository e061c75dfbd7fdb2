import SqlAssembly.Query.Step

/-!
# Runs of steps

What a run of steps collects for the clauses that carry values. A run starts from any query and
may contain refused steps; each clause is what it was, followed by what the steps contribute in
their order (`Query.run_filter`, `Query.run_assignments`). No step looks at the mode, so a change
of mode may be made before a run or after it (`Query.run_inMode`).
-/

namespace SqlAssembly

/-! ## Contributions of a step -/

namespace Step

/-- The required group that the step adds; an empty one is not added. -/
def required : Step → List Group
  | .require group => if group = [] then [] else [group]
  | _ => []

def alternatives : Step → List Group
  | .orElse group => if group = [] then [] else [group]
  | _ => []

def assignments : Step → List Assignment
  | .assign items => items
  | _ => []

def pageStart? (page size : Int64) : Option Int64 :=
  if page < 1 ∨ size < 1 then none
  else if (page.toInt - 1) * size.toInt ≤ Int64.maxValue.toInt then
    some (Int64.ofInt ((page.toInt - 1) * size.toInt))
  else none

end Step

namespace Query

variable (q : Query)

/-! ## Single steps -/

/-- The clauses after a step, with each clause on its own. A clause whose new value is refused
keeps the old one. -/
def effect : Step → Query
  | .fromTable table => { q with source := (TableReference.make table).toOption.or q.source }
  | .fromTableAs table aliasName =>
      { q with source := (TableReference.makeAs table aliasName).toOption.or q.source }
  | .fromNames names => { q with source := (TableReference.ofNames names).toOption.or q.source }
  | .project columns => { q with columns }
  | .projectAll => { q with columns := [] }
  | .join join => { q with joins := q.joins ++ [join] }
  | .require group =>
      { q with filter.required := q.filter.required ++ (Step.require group).required }
  | .orElse group =>
      { q with filter.alternatives := q.filter.alternatives ++ (Step.orElse group).alternatives }
  | .orderBy key => { q with ordering := q.ordering ++ [key] }
  | .clearOrder => { q with ordering := [] }
  | .groupBy columns => { q with grouping := columns }
  | .limit n => { q with limit := some n }
  | .offset n => { q with offset := some n }
  | .page page size =>
      { q with
        limit := ((Step.pageStart? page size).map fun _ => size).or q.limit
        offset := (Step.pageStart? page size).or q.offset }
  | .assign items => { q with assignments := q.assignments ++ items }

theorem advance_page (page size : Int64) :
    q.advance (.page page size) = q.effect (.page page size) := by
  rw [advance, step, setPage, effect, Step.pageStart?]
  by_cases hp : page < 1
  · rw [if_pos hp, if_pos (.inl hp)]
    rfl
  · by_cases hs : size < 1
    · rw [if_neg hp, if_pos hs, if_pos (.inr hs)]
      rfl
    · rw [if_neg hp, if_neg hs, if_neg (not_or.mpr ⟨hp, hs⟩)]
      by_cases fits : (page.toInt - 1) * size.toInt ≤ Int64.maxValue.toInt
      · rw [if_pos fits, if_pos fits]
        rfl
      · rw [if_neg fits, if_neg fits]
        rfl

theorem advance_eq_effect (s : Step) : q.advance s = q.effect s := by
  cases s with
  | fromTable table =>
      rw [advance, step, fromTable, effect]
      cases TableReference.make table <;> rfl
  | fromTableAs table aliasName =>
      rw [advance, step, fromTableAs, effect]
      cases TableReference.makeAs table aliasName <;> rfl
  | fromNames names =>
      rw [advance, step, fromNames, effect]
      cases TableReference.ofNames names <;> rfl
  | require group =>
      change q.require group = _
      by_cases h : group = []
      · rw [require, if_pos h, effect, Step.required, if_pos h, List.append_nil]
      · rw [require, if_neg h, effect, Step.required, if_neg h]
  | orElse group =>
      change q.orElse group = _
      by_cases h : group = []
      · rw [orElse, if_pos h, effect, Step.alternatives, if_pos h, List.append_nil]
      · rw [orElse, if_neg h, effect, Step.alternatives, if_neg h]
  | page page size => exact q.advance_page page size
  | _ => rfl

/-- A step leaves the groups as they were and adds its own behind them. -/
theorem advance_filter (s : Step) :
    (q.advance s).filter =
      { required := q.filter.required ++ s.required
        alternatives := q.filter.alternatives ++ s.alternatives } := by
  rw [advance_eq_effect]
  cases s <;> simp [effect, Step.required, Step.alternatives]

theorem advance_assignments (s : Step) :
    (q.advance s).assignments = q.assignments ++ s.assignments := by
  rw [advance_eq_effect]
  cases s <;> simp [effect, Step.assignments]

theorem advance_config (s : Step) : (q.advance s).config = q.config := by
  rw [advance_eq_effect]
  cases s <;> rfl

/-! ## Whole runs -/

theorem run_filter (steps : List Step) :
    (q.run steps).filter =
      { required := q.filter.required ++ steps.flatMap Step.required
        alternatives := q.filter.alternatives ++ steps.flatMap Step.alternatives } := by
  induction steps generalizing q with
  | nil => simp
  | cons s steps ih =>
      rw [run_cons, ih, advance_filter]
      simp only [List.flatMap_cons, List.append_assoc]

theorem run_assignments (steps : List Step) :
    (q.run steps).assignments = q.assignments ++ steps.flatMap Step.assignments := by
  induction steps generalizing q with
  | nil => simp
  | cons s steps ih =>
      rw [run_cons, ih, advance_assignments, List.flatMap_cons, List.append_assoc]

theorem run_config (steps : List Step) : (q.run steps).config = q.config := by
  induction steps generalizing q with
  | nil => rfl
  | cons s steps ih => rw [run_cons, ih, advance_config]

/-! ## Change of mode -/

def inMode (mode : Rendering.Mode) : Query := { q with config := q.config.inMode mode }

/-- A step is taken or refused whatever the mode is, and the mode is kept. -/
theorem advance_inMode (mode : Rendering.Mode) (s : Step) :
    (q.inMode mode).advance s = (q.advance s).inMode mode := by
  rw [advance_eq_effect, advance_eq_effect]
  cases s <;> rfl

theorem run_inMode (mode : Rendering.Mode) (steps : List Step) :
    (q.inMode mode).run steps = (q.run steps).inMode mode := by
  induction steps generalizing q with
  | nil => rfl
  | cons s steps ih => rw [run_cons, run_cons, advance_inMode, ih]

end Query

/-! ## An instance -/

/-- Users that are chosen by a unary condition, a range and a list, and of whom one column is
assigned: every kind of hole, with scalars that are left open. The page is refused. -/
def Step.usersBy (assigned : Scalar) (items : List Scalar) (finite : assigned.IsFinite)
    (sound : (Value.sequence items).Sound) : List Step :=
  [.fromTableAs "users" "u",
    .require
      [⟨"deleted_at", "is null", none, by decide, by decide, nofun⟩,
        ⟨"age", "between", some (.sequence items), by decide, by decide,
          fun _ h => Option.some.inj h ▸ sound⟩],
    .page 0 10,
    .orElse
      [⟨"id", "in", some (.sequence items), by decide, by decide,
        fun _ h => Option.some.inj h ▸ sound⟩],
    .assign [⟨"name", assigned, by decide, finite⟩]]

def Query.usersBy (mode : Rendering.Mode) (assigned : Scalar) (items : List Scalar)
    (finite : assigned.IsFinite) (sound : (Value.sequence items).Sound) : Query :=
  (new ⟨mode, none⟩).run (Step.usersBy assigned items finite sound)

end SqlAssembly
