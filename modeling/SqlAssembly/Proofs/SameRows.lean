import SqlAssembly.Proofs.Layout.Statement
import SqlAssembly.Proofs.Run.Independence

/-!
# Statements about the same rows

The three statements of a query share one filter. The SELECT and its count read the same tables
under the same condition, so their texts differ only in what is selected and in what comes behind
the rows (`Query.select_count_same_rows`). An UPDATE has assignments before its condition, which
raises every placeholder in it by their number and changes nothing else
(`Query.update_renumbers_condition`).
-/

namespace SqlAssembly

open Layout

/-! ## Assignments and closing clauses -/

/-- Every column with the number of its scalar. -/
def Assignment.listText (items : List Assignment) : String :=
  ", ".intercalate ((items.zipIdx 1).map fun (a, k) => a.column ++ " = $" ++ toString k)

theorem Assignment.fill_layout (a : Assignment) (k : Nat) :
    a.layout.fill Rendering.numbered k = a.column ++ " = $" ++ toString (k + 1) := by
  have sign : " = $" = " = " ++ "$" := rfl
  simp only [layout, fill_text, fill_hole, fill_nil, Rendering.numbered, sign,
    String.append_assoc, String.append_empty]

theorem Assignment.fillAll_layout (items : List Assignment) (k : Nat) :
    fillAll Rendering.numbered k (items.map Assignment.layout) =
      (items.zipIdx (k + 1)).map fun (a, i) => a.column ++ " = $" ++ toString i := by
  induction items generalizing k with
  | nil => rfl
  | cons a items ih =>
      have one : (holes a.layout).length = 1 := rfl
      rw [List.map_cons, fillAll_cons, one, ih, fill_layout, List.zipIdx_cons, List.map_cons]

theorem Assignment.fill_layoutAll (items : List Assignment) :
    (Assignment.layoutAll items).fill Rendering.numbered 0 = Assignment.listText items := by
  rw [layoutAll, fill_separated, fillAll_layout, listText]

namespace Query

/-- The clauses behind the filter by keyword, with their items. A clause without items is not
set. -/
def closing (q : Query) : List (String × List String) :=
  [(" GROUP BY ", q.grouping), (" ORDER BY ", q.ordering.map SortKey.sql),
    (" LIMIT ", q.limit.toList.map fun n => toString n.toInt),
    (" OFFSET ", q.offset.toList.map fun n => toString n.toInt)]

/-- An UPDATE has the condition of the count with every placeholder raised by the number of
assignments, which come first in its text and its arguments. In literal mode the condition is the
same text. The UPDATE is the same for all runs with the same steps about source, assignments and
filter. -/
theorem update_renumbers_condition (config : Config) (steps : List Step) :
    let q := (new config).run steps
    let assignments := steps.flatMap Step.assignments
    let m := assignments.length
    (q.build .count).sql =
        "SELECT COUNT(*) AS total FROM " ++ q.sourceText ++ q.joinText ++
          q.filter.layout.fill q.mode.mark 0 ∧
      (q.build .update).sql =
        "UPDATE " ++ q.sourceText ++ " SET " ++ Assignment.listText assignments ++
          q.filter.layout.fill (fun k => q.mode.mark (k + m)) 0 ∧
      (q.build .update).arguments.toList =
        assignments.map Assignment.value ++ (q.build .count).arguments.toList ∧
      ((new config).run (steps.filter (Step.concerns Statement.Kind.update.clauses))).build
        .update = q.build .update := by
  intro q assignments m
  have items : q.assignments = assignments := by
    rw [run_assignments]
    rfl
  have length : (q.assigned .update).length = m := by
    rw [assigned, List.length_map, items]
  refine ⟨sql_count q, ?_, ?_, build_run_filter _ steps .update⟩
  · rw [sql_update, Assignment.fill_layoutAll, items, length, fill_behind]
  · rw [arguments_build, arguments_build, assigned, assigned, items, List.nil_append]

end Query

end SqlAssembly
