import SqlAssembly.Proofs.Acceptance
import SqlAssembly.Proofs.Layout.Statement
import SqlAssembly.Proofs.ListOperators
import SqlAssembly.Proofs.Run
import SqlAssembly.Proofs.Session

/-!
# Soundness of what is built

Bad input is refused where it comes in, so nothing built from what was accepted shows a trace of
it: no group and no list is written with nothing in it, WHERE stands exactly in the statements
that have a condition, and every argument is finite and therefore equal to itself. All of this is
put together in `Query.run_sound`.
-/

namespace SqlAssembly

/-! ## Texts with something in them -/

theorem append_ne_empty {s : String} (h : s ≠ "") (t : String) : s ++ t ≠ "" := by
  rw [ne_eq, String.append_eq_empty_iff]
  rintro ⟨empty, _⟩
  exact h empty

theorem intercalate_cons_ne_empty {t : String} (h : t ≠ "") (sep : String) (ts : List String) :
    sep.intercalate (t :: ts) ≠ "" := by
  cases ts with
  | nil =>
      rw [String.intercalate_singleton]
      exact h
  | cons u ts =>
      rw [String.intercalate_cons_cons]
      exact append_ne_empty (append_ne_empty h sep) _

theorem toString_int_ne_empty (n : Int) : toString n ≠ "" := by
  rw [Int.toString_eq_repr, Int.repr_eq_if]
  split
  · exact Nat.repr_ne_empty
  · exact append_ne_empty (by decide) _

theorem Numeric.Decimal.positional_ne_nil (d : Numeric.Decimal) : d.positional ≠ [] := by
  have digits : d.digits ≠ [] := Nat.toDigits_ne_nil
  unfold positional
  simp only
  split
  · simp [digits]
  · split <;> simp

theorem Numeric.BinaryFloat.display_ne_empty {f : Numeric.BinaryFormat}
    (x : Numeric.BinaryFloat f) : x.display ≠ "" := by
  unfold display
  rw [ne_eq, ← String.toList_eq_nil_iff, String.toList_ofList]
  split
  · decide
  · split
    · split
      · simp
      · simp [Decimal.positional_ne_nil]
    · simp

theorem Scalar.literal_ne_empty (s : Scalar) : s.literal ≠ "" := by
  cases s with
  | text t => exact append_ne_empty (append_ne_empty (by decide) t) _
  | int n => exact toString_int_ne_empty n.toInt
  | float x => exact x.display_ne_empty
  | bool b => cases b <;> decide

theorem Rendering.scalar_ne_empty (s : Scalar) (r : Rendering) : (r.scalar s).1 ≠ "" := by
  unfold scalar
  split
  · exact append_ne_empty (by decide) _
  · exact s.literal_ne_empty

/-- Rendered items are not joined to the empty text if there are any and none is rendered as the
empty text. -/
theorem Rendering.intercalate_each_ne_empty {α : Type}
    {render : α → Rendering → String × Rendering} (visible : ∀ x r, (render x r).1 ≠ "")
    {xs : List α} (some : xs ≠ []) (sep : String) (r : Rendering) :
    sep.intercalate (each render xs r).1 ≠ "" := by
  cases xs with
  | nil => exact absurd rfl some
  | cons x xs => exact intercalate_cons_ne_empty (visible x r) sep _

/-! ## Conditions and groups -/

namespace Condition

theorem render_ne_empty (c : Condition) (r : Rendering) : (c.render r).1 ≠ "" := by
  have head : c.column ++ " " ++ Text.upper c.operator ≠ "" := by
    rw [String.append_assoc]
    simp [String.append_eq_empty_iff]
  unfold render
  split
  · exact head
  · exact append_ne_empty (append_ne_empty head " ") _

/-- A condition that exists has no empty sequence. -/
theorem items_ne_nil {c : Condition} {items : List Scalar}
    (value : c.value = some (.sequence items)) : items ≠ [] :=
  (c.value_sound _ value).1

/-- The list of a list operator has something in its parentheses. -/
theorem render_list {c : Condition} (list : c.isListOperator = true) {items : List Scalar}
    (value : c.value = some (.sequence items)) (r : Rendering) :
    ∃ inside : String, inside ≠ "" ∧
      (c.render r).1 = c.column ++ " " ++ Text.upper c.operator ++ " (" ++ inside ++ ")" := by
  refine ⟨_, Rendering.intercalate_each_ne_empty
    (fun s r => r.scalar_ne_empty s) (items_ne_nil value) ", " r, ?_⟩
  exact render_sequence list value r

theorem scalars_finite (c : Condition) : ∀ s ∈ c.scalars, s.IsFinite := by
  unfold scalars
  cases value : c.value with
  | none => simp
  | some v => exact (c.value_sound v value).2

end Condition

theorem Group.render_ne_parentheses {group : Group} (some : group ≠ []) (r : Rendering) :
    (group.render r).1 ≠ "()" := by
  have inside := Rendering.intercalate_each_ne_empty Condition.render_ne_empty some " AND " r
  have nothing : "()" = "(" ++ "" ++ ")" := rfl
  intro h
  rw [render, nothing, String.append_left_inj, String.append_right_inj] at h
  exact inside h

theorem Filter.scalars_finite (filter : Filter) : ∀ s ∈ filter.scalars, s.IsFinite := by
  have group (g : Group) : ∀ s ∈ g.scalars, s.IsFinite := by
    intro s hs
    obtain ⟨c, _, mem⟩ := List.mem_flatMap.mp hs
    exact c.scalars_finite s mem
  intro s hs
  rcases List.mem_append.mp hs with hs | hs
  · obtain ⟨g, _, mem⟩ := List.mem_flatMap.mp hs
    exact group g s mem
  · obtain ⟨g, _, mem⟩ := List.mem_flatMap.mp hs
    exact group g s mem

/-! ## Where groups come from -/

/-- The groups that a step brings, empty ones included. -/
def Step.groups : Step → List Group
  | .require group | .orElse group => [group]
  | _ => []

theorem Step.mem_added {s : Step} {group : Group} :
    group ∈ s.required ∨ group ∈ s.alternatives ↔ group ≠ [] ∧ group ∈ s.groups := by
  cases s with
  | require added =>
      by_cases empty : added = [] <;> simp [required, alternatives, groups, empty]
      rintro rfl
      exact empty
  | orElse added =>
      by_cases empty : added = [] <;> simp [required, alternatives, groups, empty]
      rintro rfl
      exact empty
  | _ => simp [required, alternatives, groups]

namespace Query

/-- All groups, the required ones first. -/
def groups (q : Query) : List Group := q.filter.required ++ q.filter.alternatives

/-- After a run a new query has those groups that the steps brought and that are not empty. -/
theorem mem_groups_run {config : Config} {steps : List Step} {group : Group} :
    group ∈ ((new config).run steps).groups ↔ group ≠ [] ∧ ∃ s ∈ steps, group ∈ s.groups := by
  have added : group ∈ ((new config).run steps).groups ↔
      ∃ s ∈ steps, group ∈ s.required ∨ group ∈ s.alternatives := by
    rw [groups, run_filter]
    simp only [new, Filter.empty, List.nil_append, List.mem_append, List.mem_flatMap,
      ← exists_or, ← and_or_left]
  rw [added]
  constructor
  · rintro ⟨s, hs, mem⟩
    obtain ⟨some, brought⟩ := Step.mem_added.mp mem
    exact ⟨some, s, hs, brought⟩
  · rintro ⟨some, s, hs, brought⟩
    exact ⟨s, hs, Step.mem_added.mpr ⟨some, brought⟩⟩

/-! ## The WHERE clause of a statement -/

/-- The text before the WHERE clause. -/
def opening (q : Query) : Statement.Kind → String
  | .select => "SELECT " ++ q.projectionText ++ " FROM " ++ q.sourceText ++ q.joinText
  | .count => "SELECT COUNT(*) AS total FROM " ++ q.sourceText ++ q.joinText
  | .update =>
      "UPDATE " ++ q.sourceText ++ " SET " ++
        (Assignment.renderAll q.assignments (.start q.mode)).1

def whereText (q : Query) : Statement.Kind → String
  | .select | .count => (q.filter.render (.start q.mode)).1
  | .update => (q.filter.render (Assignment.renderAll q.assignments (.start q.mode)).2).1

/-- The text behind the WHERE clause. -/
def ending (q : Query) : Statement.Kind → String
  | .select => q.groupText ++ q.orderText ++ q.limitText ++ q.offsetText
  | .count | .update => ""

theorem sql_around_where (q : Query) (kind : Statement.Kind) :
    (q.build kind).sql = q.opening kind ++ q.whereText kind ++ q.ending kind := by
  cases kind with
  | select =>
      calc (q.build .select).sql
        _ = q.opening .select ++ q.whereText .select ++
              q.groupText ++ q.orderText ++ q.limitText ++ q.offsetText := rfl
        _ = q.opening .select ++ q.whereText .select ++
              (q.groupText ++ q.orderText ++ q.limitText ++ q.offsetText) := by
            simp only [String.append_assoc]
        _ = _ := rfl
  | count =>
      calc (q.build .count).sql
        _ = q.opening .count ++ q.whereText .count := rfl
        _ = q.opening .count ++ q.whereText .count ++ "" := String.append_empty.symm
        _ = _ := rfl
  | update =>
      calc (q.build .update).sql
        _ = q.opening .update ++ q.whereText .update := rfl
        _ = q.opening .update ++ q.whereText .update ++ "" := String.append_empty.symm
        _ = _ := rfl

theorem whereText_eq_fill (q : Query) (kind : Statement.Kind) :
    q.whereText kind = q.filter.layout.fill q.mode.mark (q.assigned kind).length := by
  cases kind with
  | select | count => rw [whereText, render_filter_start, assigned, List.length_nil]
  | update => rw [whereText, render_assignments_start, render_filter_assigned]

theorem whereText_eq_render (q : Query) (kind : Statement.Kind) :
    ∃ r, q.whereText kind = (q.filter.render r).1 := by
  cases kind with
  | select | count => exact ⟨_, rfl⟩
  | update => exact ⟨_, rfl⟩

end Query

/-- A filter is either nothing or a WHERE clause, which it is if it has a group. -/
theorem Filter.render_cases (filter : Filter) (r : Rendering) :
    filter.required ++ filter.alternatives = [] ∧ (filter.render r).1 = "" ∨
      filter.required ++ filter.alternatives ≠ [] ∧
        ∃ condition : String, (filter.render r).1 = " WHERE " ++ condition := by
  rw [ne_eq, List.append_eq_nil_iff]
  by_cases none : filter.required = [] ∧ filter.alternatives = []
  · left
    rw [render, if_pos none]
    exact ⟨none, rfl⟩
  · right
    refine ⟨none, " OR ".intercalate (filter.operands r).1, ?_⟩
    rw [render, if_neg none]

namespace Query

theorem groups_ne_nil_iff {config : Config} {steps : List Step} :
    ((new config).run steps).groups ≠ [] ↔ ∃ s ∈ steps, ∃ group ∈ s.groups, group ≠ [] := by
  constructor
  · intro some
    obtain ⟨group, mem⟩ := List.exists_mem_of_ne_nil _ some
    obtain ⟨visible, s, hs, brought⟩ := mem_groups_run.mp mem
    exact ⟨s, hs, group, brought, visible⟩
  · rintro ⟨s, hs, group, brought, visible⟩
    exact List.ne_nil_of_mem (mem_groups_run.mpr ⟨visible, s, hs, brought⟩)

/-- A statement of a new query after a run has a WHERE clause if and only if some step brought a
group that is not empty. -/
theorem whereText_run (config : Config) (steps : List Step) (kind : Statement.Kind) :
    let q := (new config).run steps
    (q.whereText kind = "" ∨ ∃ condition : String, q.whereText kind = " WHERE " ++ condition) ∧
      (q.whereText kind ≠ "" ↔ ∃ s ∈ steps, ∃ group ∈ s.groups, group ≠ []) := by
  intro q
  obtain ⟨r, rendered⟩ := q.whereText_eq_render kind
  rw [rendered, ← groups_ne_nil_iff]
  rcases q.filter.render_cases r with ⟨none, empty⟩ | ⟨some, condition, text⟩
  · exact ⟨.inl empty, iff_of_false (not_not_intro empty) (not_not_intro none)⟩
  · have visible : (q.filter.render r).1 ≠ "" := by
      rw [text]
      exact append_ne_empty (by decide) condition
    exact ⟨.inr ⟨condition, text⟩, iff_of_true visible some⟩

/-! ## Arguments -/

theorem arguments_finite (q : Query) (kind : Statement.Kind) :
    ∀ s ∈ (q.build kind).arguments.toList, s.IsFinite := by
  have assigned : ∀ s ∈ q.assigned kind, s.IsFinite := by
    intro s hs
    cases kind with
    | select | count => cases hs
    | update =>
        obtain ⟨a, _, rfl⟩ := List.mem_map.mp hs
        exact a.value_finite
  intro s hs
  rw [arguments_build] at hs
  rcases List.mem_append.mp hs with hs | hs
  · exact assigned s hs
  · cases mode : q.mode with
    | placeholder =>
        rw [mode] at hs
        exact q.filter.scalars_finite s hs
    | literal =>
        rw [mode] at hs
        cases hs

end Query

/-! ## Equality of statements -/

theorem Scalar.valueEq_self {s : Scalar} (finite : s.IsFinite) : s.ValueEq s := by
  cases s with
  | float x =>
      have number : ¬ x.IsNaN := Nat.lt_asymm finite
      exact ⟨number, number, rfl, .inl rfl⟩
  | _ => rfl

theorem Scalar.allEq_self {ss : List Scalar} (finite : ∀ s ∈ ss, s.IsFinite) :
    Scalar.AllEq ss ss := by
  induction ss with
  | nil => trivial
  | cons s ss ih =>
      have first := finite s List.mem_cons_self
      have others := ih fun t ht => finite t (List.mem_cons_of_mem s ht)
      exact ⟨Scalar.valueEq_self first, others⟩

theorem Query.build_valueEq_self (q : Query) (kind : Statement.Kind) :
    (q.build kind).ValueEq (q.build kind) :=
  ⟨rfl, Scalar.allEq_self (q.arguments_finite kind)⟩

/-! ## The law -/

namespace Query

/-- Bad input is refused where it comes in. Conditions are accepted by every constructor exactly
if column and operator are not blank and the value is sound, assignments exactly if the column is
not blank and the scalar finite, and what is refused is refused for its first fault. A query that
only accepted input has reached has no group without conditions and writes none, has no list
without items, has WHERE in its statements exactly if some group with conditions was given to it,
and has arguments that are finite. So a built statement equals itself, and whatever else is built
from the same query, as values. -/
theorem run_sound :
    (∀ call : Condition.Call,
      ((∃ c, call.perform = .ok c) ↔ call.draft.Admissible) ∧
        (∀ c, call.perform = .ok c ↔ c.draft = call.draft) ∧
        ∀ e, call.perform = .error e ↔ call.draft.Refusal e) ∧
    (∀ column s,
      ((∃ a, Assignment.make column s = .ok a) ↔ Text.isBlank column = false ∧ s.IsFinite) ∧
        (∀ a, Assignment.make column s = .ok a ↔ a.column = column ∧ a.value = s) ∧
        ∀ e, Assignment.make column s = .error e ↔ Assignment.Refusal column s e) ∧
    ∀ (config : Config) (steps : List Step),
      let q := (new config).run steps
      (∀ group ∈ q.groups, group ≠ [] ∧ ∀ r, (group.render r).1 ≠ "()") ∧
      (∀ c ∈ q.conditions, ∀ items, c.value = some (.sequence items) →
        items ≠ [] ∧ (c.isListOperator = true → ∀ r, ∃ inside : String, inside ≠ "" ∧
          (c.render r).1 = c.column ++ " " ++ Text.upper c.operator ++ " (" ++ inside ++ ")")) ∧
      ∀ kind : Statement.Kind,
        (q.build kind).sql = q.opening kind ++ q.whereText kind ++ q.ending kind ∧
        (q.whereText kind = "" ∨ ∃ condition : String, q.whereText kind = " WHERE " ++ condition) ∧
        (q.whereText kind ≠ "" ↔ ∃ s ∈ steps, ∃ group ∈ s.groups, group ≠ []) ∧
        (∀ s ∈ (q.build kind).arguments.toList ++ q.filter.scalars, s.IsFinite) ∧
        ∀ first second : Session, first.query = q → second.query = q →
          (first.build kind).1.ValueEq (first.build kind).1 ∧
            (first.build kind).1.ValueEq (second.build kind).1 := by
  refine ⟨?_, ?_, ?_⟩
  · intro call
    rw [call.perform_eq]
    exact ⟨Condition.Draft.check_ok_iff, fun c => Condition.Draft.check_eq_ok_iff,
      fun e => Condition.Draft.check_eq_error_iff⟩
  · intro column s
    exact ⟨Assignment.make_ok_iff, fun a => Assignment.make_eq_ok_iff,
      fun e => Assignment.make_eq_error_iff⟩
  · intro config steps q
    refine ⟨?_, ?_, ?_⟩
    · intro group mem
      have some : group ≠ [] := (mem_groups_run.mp mem).1
      exact ⟨some, fun r => Group.render_ne_parentheses some r⟩
    · intro c _ items value
      exact ⟨Condition.items_ne_nil value, fun list r => Condition.render_list list value r⟩
    · intro kind
      obtain ⟨shape, written⟩ := whereText_run config steps kind
      refine ⟨q.sql_around_where kind, shape, written, ?_, ?_⟩
      · intro s hs
        rcases List.mem_append.mp hs with hs | hs
        · exact q.arguments_finite kind s hs
        · exact q.filter.scalars_finite s hs
      · intro first second hfirst hsecond
        rw [first.fst_build, second.fst_build, hfirst, hsecond]
        exact ⟨q.build_valueEq_self kind, q.build_valueEq_self kind⟩

/-- A list and a blank operator are answered by the check, and a range, a list and an assignment
reach a statement with a condition. -/
theorem run_sound_usersBy :
    (∃ c, (Condition.Call.inList "id" [.int 18, .int 65]).perform = .ok c) ∧
    (Condition.Call.binary "age" " " (.scalar (.int 18))).perform =
      .error (.unsupportedOperator " ") ∧
    (usersBy .literal (.text "Mark") [.int 18, .int 65] trivial (by decide)).whereText .count ≠
      "" ∧
    ((usersBy .literal (.text "Mark") [.int 18, .int 65] trivial (by decide)).build
      .update).ValueEq
        ((usersBy .literal (.text "Mark") [.int 18, .int 65] trivial (by decide)).build
          .update) := by
  obtain ⟨conditions, _, runs⟩ := run_sound
  obtain ⟨_, _, statements⟩ :=
    runs ⟨.literal, none⟩ (Step.usersBy (.text "Mark") [.int 18, .int 65] trivial (by decide))
  refine ⟨?_, ?_, ?_, ?_⟩
  · exact (conditions (.inList "id" [.int 18, .int 65])).1.mpr ⟨by decide, by decide, by decide⟩
  · exact ((conditions (.binary "age" " " (.scalar (.int 18)))).2.2 _).mpr
      (.operator (by decide) (by decide))
  · obtain ⟨_, _, written, _, _⟩ := statements .count
    refine written.mpr ⟨_, .tail _ (.head _), _, .head _, ?_⟩
    exact List.cons_ne_nil _ _
  · obtain ⟨_, _, _, _, equal⟩ := statements .update
    exact (equal (.start _) (.start _) rfl rfl).2

end Query

end SqlAssembly
