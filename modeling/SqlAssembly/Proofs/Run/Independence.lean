import Mathlib.Logic.Basic
import SqlAssembly.Proofs.Run
import SqlAssembly.Query.Statement

/-!
# Independence of the clauses

A step changes the clauses that it is about and looks at no others. So two runs agree on some
clauses if they took the same steps about them (`Query.AgreeOn.run`), whatever else they did in
between, and a statement depends only on the steps about the clauses that it is built from
(`Query.build_run_filter`).
-/

namespace SqlAssembly

inductive Clause where
  | source
  | projection
  | joins
  | required
  | alternatives
  | grouping
  | ordering
  | limit
  | offset
  | assignments
deriving DecidableEq

/-- What a step is about. A page is both a limit and an offset. -/
def Step.clauses : Step → List Clause
  | .fromTable _ | .fromTableAs _ _ | .fromNames _ => [.source]
  | .project _ | .projectAll => [.projection]
  | .join _ => [.joins]
  | .require _ => [.required]
  | .orElse _ => [.alternatives]
  | .orderBy _ | .clearOrder => [.ordering]
  | .groupBy _ => [.grouping]
  | .limit _ => [.limit]
  | .offset _ => [.offset]
  | .page _ _ => [.limit, .offset]
  | .assign _ => [.assignments]

/-- The step is about at least one of the clauses. -/
def Step.concerns (clauses : List Clause) (s : Step) : Bool := s.clauses.any (· ∈ clauses)

/-- What a statement is built from, besides the mode. -/
def Statement.Kind.clauses : Statement.Kind → List Clause
  | .select =>
      [.projection, .source, .joins, .required, .alternatives, .grouping, .ordering, .limit,
        .offset]
  | .count => [.source, .joins, .required, .alternatives]
  | .update => [.source, .assignments, .required, .alternatives]

namespace Query

structure AgreeOn (clauses : List Clause) (p q : Query) : Prop where
  config : p.config = q.config
  source : .source ∈ clauses → p.source = q.source
  columns : .projection ∈ clauses → p.columns = q.columns
  joins : .joins ∈ clauses → p.joins = q.joins
  required : .required ∈ clauses → p.filter.required = q.filter.required
  alternatives : .alternatives ∈ clauses → p.filter.alternatives = q.filter.alternatives
  grouping : .grouping ∈ clauses → p.grouping = q.grouping
  ordering : .ordering ∈ clauses → p.ordering = q.ordering
  limit : .limit ∈ clauses → p.limit = q.limit
  offset : .offset ∈ clauses → p.offset = q.offset
  assignments : .assignments ∈ clauses → p.assignments = q.assignments

namespace AgreeOn

variable {clauses : List Clause} {p q r : Query}

theorem refl (clauses : List Clause) (q : Query) : q.AgreeOn clauses q :=
  ⟨rfl, fun _ => rfl, fun _ => rfl, fun _ => rfl, fun _ => rfl, fun _ => rfl, fun _ => rfl,
    fun _ => rfl, fun _ => rfl, fun _ => rfl, fun _ => rfl⟩

theorem symm (h : p.AgreeOn clauses q) : q.AgreeOn clauses p where
  config := h.config.symm
  source m := (h.source m).symm
  columns m := (h.columns m).symm
  joins m := (h.joins m).symm
  required m := (h.required m).symm
  alternatives m := (h.alternatives m).symm
  grouping m := (h.grouping m).symm
  ordering m := (h.ordering m).symm
  limit m := (h.limit m).symm
  offset m := (h.offset m).symm
  assignments m := (h.assignments m).symm

theorem trans (h : p.AgreeOn clauses q) (h' : q.AgreeOn clauses r) : p.AgreeOn clauses r where
  config := h.config.trans h'.config
  source m := (h.source m).trans (h'.source m)
  columns m := (h.columns m).trans (h'.columns m)
  joins m := (h.joins m).trans (h'.joins m)
  required m := (h.required m).trans (h'.required m)
  alternatives m := (h.alternatives m).trans (h'.alternatives m)
  grouping m := (h.grouping m).trans (h'.grouping m)
  ordering m := (h.ordering m).trans (h'.ordering m)
  limit m := (h.limit m).trans (h'.limit m)
  offset m := (h.offset m).trans (h'.offset m)
  assignments m := (h.assignments m).trans (h'.assignments m)

theorem filter (h : p.AgreeOn clauses q) (hr : .required ∈ clauses)
    (ha : .alternatives ∈ clauses) : p.filter = q.filter :=
  congrArg₂ Filter.mk (h.required hr) (h.alternatives ha)

/-! ## Single steps -/

theorem effect (h : p.AgreeOn clauses q) (s : Step) :
    (p.effect s).AgreeOn clauses (q.effect s) := by
  -- Only the clauses that the step is about are compared anew.
  cases s with
  | fromTable table => exact { h with source := fun m => congrArg (Option.or _) (h.source m) }
  | fromTableAs table aliasName =>
      exact { h with source := fun m => congrArg (Option.or _) (h.source m) }
  | fromNames names => exact { h with source := fun m => congrArg (Option.or _) (h.source m) }
  | project columns => exact { h with columns := fun _ => rfl }
  | projectAll => exact { h with columns := fun _ => rfl }
  | join join => exact { h with joins := fun m => congrArg (· ++ [join]) (h.joins m) }
  | require group => exact { h with required := fun m => congrArg (· ++ _) (h.required m) }
  | orElse group => exact { h with alternatives := fun m => congrArg (· ++ _) (h.alternatives m) }
  | orderBy key => exact { h with ordering := fun m => congrArg (· ++ [key]) (h.ordering m) }
  | clearOrder => exact { h with ordering := fun _ => rfl }
  | groupBy columns => exact { h with grouping := fun _ => rfl }
  | limit n => exact { h with limit := fun _ => rfl }
  | offset n => exact { h with offset := fun _ => rfl }
  | page page size =>
      exact
        { h with
          limit := fun m => congrArg (Option.or _) (h.limit m)
          offset := fun m => congrArg (Option.or _) (h.offset m) }
  | assign items => exact { h with assignments := fun m => congrArg (· ++ items) (h.assignments m) }

theorem effect_of_not_concerns (h : p.AgreeOn clauses q) {s : Step}
    (other : s.concerns clauses = false) : p.AgreeOn clauses (q.effect s) := by
  have notMem : ∀ c ∈ s.clauses, c ∉ clauses := by simpa [Step.concerns] using other
  cases s with
  | fromTable table => exact { h with source := fun m => absurd m (notMem .source (.head _)) }
  | fromTableAs table aliasName =>
      exact { h with source := fun m => absurd m (notMem .source (.head _)) }
  | fromNames names => exact { h with source := fun m => absurd m (notMem .source (.head _)) }
  | project columns => exact { h with columns := fun m => absurd m (notMem .projection (.head _)) }
  | projectAll => exact { h with columns := fun m => absurd m (notMem .projection (.head _)) }
  | join join => exact { h with joins := fun m => absurd m (notMem .joins (.head _)) }
  | require group => exact { h with required := fun m => absurd m (notMem .required (.head _)) }
  | orElse group =>
      exact { h with alternatives := fun m => absurd m (notMem .alternatives (.head _)) }
  | orderBy key => exact { h with ordering := fun m => absurd m (notMem .ordering (.head _)) }
  | clearOrder => exact { h with ordering := fun m => absurd m (notMem .ordering (.head _)) }
  | groupBy columns => exact { h with grouping := fun m => absurd m (notMem .grouping (.head _)) }
  | limit n => exact { h with limit := fun m => absurd m (notMem .limit (.head _)) }
  | offset n => exact { h with offset := fun m => absurd m (notMem .offset (.head _)) }
  | page page size =>
      exact
        { h with
          limit := fun m => absurd m (notMem .limit (.head _))
          offset := fun m => absurd m (notMem .offset (.tail _ (.head _))) }
  | assign items =>
      exact { h with assignments := fun m => absurd m (notMem .assignments (.head _)) }

/-! ## Whole runs -/

theorem run_filter (h : p.AgreeOn clauses q) (steps : List Step) :
    (p.run (steps.filter (Step.concerns clauses))).AgreeOn clauses (q.run steps) := by
  induction steps generalizing p q with
  | nil => exact h
  | cons s steps ih =>
      cases concerned : s.concerns clauses with
      | true =>
          rw [List.filter_cons_of_pos concerned, run_cons, run_cons]
          refine ih ?_
          rw [advance_eq_effect, advance_eq_effect]
          exact h.effect s
      | false =>
          rw [List.filter_cons_of_neg (by simp [concerned]), run_cons]
          refine ih ?_
          rw [advance_eq_effect]
          exact h.effect_of_not_concerns concerned

theorem run {steps others : List Step} (h : p.AgreeOn clauses q)
    (same : steps.filter (Step.concerns clauses) = others.filter (Step.concerns clauses)) :
    (p.run steps).AgreeOn clauses (q.run others) := by
  have left := (refl clauses p).run_filter steps
  have right := h.run_filter others
  rw [same] at left
  exact left.symm.trans right

end AgreeOn

theorem eq_of_agreeOn {p q : Query} (h : ∀ c, p.AgreeOn [c] q) : p = q := by
  have filter : p.filter = q.filter :=
    congrArg₂ Filter.mk ((h .required).required (.head _))
      ((h .alternatives).alternatives (.head _))
  have config := (h .source).config
  have source := (h .source).source (.head _)
  have columns := (h .projection).columns (.head _)
  have joins := (h .joins).joins (.head _)
  have grouping := (h .grouping).grouping (.head _)
  have ordering := (h .ordering).ordering (.head _)
  have limit := (h .limit).limit (.head _)
  have offset := (h .offset).offset (.head _)
  have assignments := (h .assignments).assignments (.head _)
  cases p
  cases q
  simp_all

/-! ## Statements -/

theorem build_congr {p q : Query} {kind : Statement.Kind} (h : p.AgreeOn kind.clauses q) :
    p.build kind = q.build kind := by
  have mode : p.mode = q.mode := congrArg Config.mode h.config
  cases kind with
  | select =>
      have filter := h.filter (by decide) (by decide)
      have source := h.source (by decide)
      have columns := h.columns (by decide)
      have joins := h.joins (by decide)
      have grouping := h.grouping (by decide)
      have ordering := h.ordering (by decide)
      have limit := h.limit (by decide)
      have offset := h.offset (by decide)
      change p.select = q.select
      unfold select projectionText sourceText joinText groupText orderText limitText offsetText
      rw [mode, filter, source, columns, joins, grouping, ordering, limit, offset]
  | count =>
      have filter := h.filter (by decide) (by decide)
      have source := h.source (by decide)
      have joins := h.joins (by decide)
      change p.count = q.count
      unfold count sourceText joinText
      rw [mode, filter, source, joins]
  | update =>
      have filter := h.filter (by decide) (by decide)
      have source := h.source (by decide)
      have assignments := h.assignments (by decide)
      change p.update = q.update
      unfold update sourceText
      rw [mode, filter, source, assignments]

/-- Steps about none of the clauses of a statement may be left out anywhere. -/
theorem build_run_filter (q : Query) (steps : List Step) (kind : Statement.Kind) :
    (q.run (steps.filter (Step.concerns kind.clauses))).build kind = (q.run steps).build kind :=
  build_congr ((AgreeOn.refl kind.clauses q).run_filter steps)

end Query

end SqlAssembly
