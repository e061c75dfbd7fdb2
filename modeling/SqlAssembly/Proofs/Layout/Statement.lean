import SqlAssembly.Proofs.Layout.Clauses
import SqlAssembly.Query.Statement

/-!
# Layouts of statements

The layout of a statement depends on the clauses of the query and not on its mode. A statement is
built by filling its layout from the first hole on: `Query.sql_build` gives the text in both
modes, `Query.arguments_build` the arguments.
-/

namespace SqlAssembly

open Layout

namespace Query

/-- The text of the statement with its scalars cut out. -/
def layout (q : Query) : Statement.Kind → Layout Scalar
  | .select =>
      .text "SELECT " :: .text q.projectionText :: .text " FROM " :: .text q.sourceText ::
        .text q.joinText :: (q.filter.layout ++
          [.text q.groupText, .text q.orderText, .text q.limitText, .text q.offsetText])
  | .count =>
      .text "SELECT COUNT(*) AS total FROM " :: .text q.sourceText :: .text q.joinText ::
        q.filter.layout
  | .update =>
      .text "UPDATE " :: .text q.sourceText :: .text " SET " ::
        (Assignment.layoutAll q.assignments ++ q.filter.layout)

def assigned (q : Query) : Statement.Kind → List Scalar
  | .select | .count => []
  | .update => q.assignments.map Assignment.value

theorem holes_layout (q : Query) (kind : Statement.Kind) :
    holes (q.layout kind) = q.assigned kind ++ q.filter.scalars := by
  cases kind <;> simp [layout, assigned]

/-- What is written in hole `k`: assigned scalars are numbered in both modes, and the holes after
them hold what the mode says. -/
def mark (q : Query) (kind : Statement.Kind) (k : Nat) (s : Scalar) : String :=
  if k ≤ (q.assigned kind).length then Rendering.numbered k s else q.mode.mark k s

theorem mark_of_placeholder {q : Query} (h : q.mode = .placeholder) (kind : Statement.Kind) :
    q.mark kind = Rendering.numbered := by
  funext k s
  simp [mark, h, Rendering.Mode.mark]

theorem fill_filter (q : Query) (kind : Statement.Kind) :
    q.filter.layout.fill (q.mark kind) (q.assigned kind).length =
      q.filter.layout.fill q.mode.mark (q.assigned kind).length := by
  apply fill_congr
  intro i _ s
  have beyond : ¬ (q.assigned kind).length + i + 1 ≤ (q.assigned kind).length := by omega
  rw [mark, if_neg beyond]

theorem fill_assignments (q : Query) :
    (Assignment.layoutAll q.assignments).fill (q.mark .update) 0 =
      (Assignment.layoutAll q.assignments).fill Rendering.numbered 0 := by
  apply fill_congr
  intro i hi s
  have within : 0 + i + 1 ≤ (q.assigned .update).length := by
    simp only [Assignment.holes_layoutAll] at hi
    simp only [assigned]
    omega
  rw [mark, if_pos within]

/-! ## Built statements -/

theorem render_filter_start (q : Query) :
    q.filter.render (.start q.mode) =
      (q.filter.layout.fill q.mode.mark 0, Rendering.collect q.mode q.filter.scalars
        (.start q.mode)) := by
  rw [Filter.render_eq, Layout.write, Filter.holes_layout]
  rfl

theorem render_assignments_start (q : Query) :
    Assignment.renderAll q.assignments (.start q.mode) =
      ((Assignment.layoutAll q.assignments).fill Rendering.numbered 0,
        (Rendering.start q.mode).bind (q.assigned .update)) := by
  rw [Assignment.renderAll_eq, Layout.write, Assignment.holes_layoutAll]
  rfl

theorem render_filter_assigned (q : Query) :
    q.filter.render ((Rendering.start q.mode).bind (q.assigned .update)) =
      (q.filter.layout.fill q.mode.mark (q.assigned .update).length,
        Rendering.collect q.mode q.filter.scalars
          ((Rendering.start q.mode).bind (q.assigned .update))) := by
  rw [Filter.render_eq, Layout.write, Filter.holes_layout, Rendering.mode_bind,
    Rendering.counter_bind, Rendering.start, Nat.zero_add]

theorem sql_select (q : Query) :
    (q.build .select).sql =
      "SELECT " ++ q.projectionText ++ " FROM " ++ q.sourceText ++ q.joinText ++
        q.filter.layout.fill q.mode.mark 0 ++
        q.groupText ++ q.orderText ++ q.limitText ++ q.offsetText := by
  calc (q.build .select).sql
    _ = "SELECT " ++ q.projectionText ++ " FROM " ++ q.sourceText ++ q.joinText ++
          (q.filter.render (.start q.mode)).1 ++
          q.groupText ++ q.orderText ++ q.limitText ++ q.offsetText := rfl
    _ = _ := by rw [render_filter_start]

theorem sql_count (q : Query) :
    (q.build .count).sql =
      "SELECT COUNT(*) AS total FROM " ++ q.sourceText ++ q.joinText ++
        q.filter.layout.fill q.mode.mark 0 := by
  calc (q.build .count).sql
    _ = "SELECT COUNT(*) AS total FROM " ++ q.sourceText ++ q.joinText ++
          (q.filter.render (.start q.mode)).1 := rfl
    _ = _ := by rw [render_filter_start]

theorem sql_update (q : Query) :
    (q.build .update).sql =
      "UPDATE " ++ q.sourceText ++ " SET " ++
        (Assignment.layoutAll q.assignments).fill Rendering.numbered 0 ++
        q.filter.layout.fill q.mode.mark (q.assigned .update).length := by
  calc (q.build .update).sql
    _ = "UPDATE " ++ q.sourceText ++ " SET " ++
          (Assignment.renderAll q.assignments (.start q.mode)).1 ++
          (q.filter.render (Assignment.renderAll q.assignments (.start q.mode)).2).1 := rfl
    _ = _ := by rw [render_assignments_start, render_filter_assigned]

/-- The text of a statement is its layout, filled. -/
theorem sql_build (q : Query) (kind : Statement.Kind) :
    (q.build kind).sql = (q.layout kind).fill (q.mark kind) 0 := by
  have filter := q.fill_filter kind
  cases kind with
  | select =>
      rw [assigned, List.length_nil] at filter
      simp only [sql_select, layout, fill_text, fill_append, fill_nil, filter,
        String.append_assoc, String.append_empty]
  | count =>
      rw [assigned, List.length_nil] at filter
      simp only [sql_count, layout, fill_text, filter, String.append_assoc]
  | update =>
      have length : (holes (Assignment.layoutAll q.assignments)).length =
          (q.assigned .update).length := by rw [Assignment.holes_layoutAll, assigned]
      simp only [sql_update, layout, fill_text, fill_append, fill_assignments, length,
        Nat.zero_add, filter, String.append_assoc]

theorem toList_collect_start (q : Query) (items : List Scalar) :
    (Rendering.collect q.mode q.filter.scalars
      ((Rendering.start q.mode).bind items)).arguments.toList =
      items ++
        match q.mode with
        | .placeholder => q.filter.scalars
        | .literal => [] := by
  cases q.mode <;> simp [Rendering.collect, Rendering.start]

/-- The arguments of a statement: the assigned scalars, and in placeholder mode those of the
filter after them. -/
theorem arguments_build (q : Query) (kind : Statement.Kind) :
    (q.build kind).arguments.toList =
      q.assigned kind ++
        match q.mode with
        | .placeholder => q.filter.scalars
        | .literal => [] := by
  rw [← toList_collect_start]
  cases kind with
  | select => exact congrArg (fun w => w.2.arguments.toList) q.render_filter_start
  | count => exact congrArg (fun w => w.2.arguments.toList) q.render_filter_start
  | update =>
      calc (q.build .update).arguments.toList
        _ = (q.filter.render
              (Assignment.renderAll q.assignments (.start q.mode)).2).2.arguments.toList := rfl
        _ = _ := by rw [render_assignments_start, render_filter_assigned]

/-- In placeholder mode every hole has its argument. -/
theorem arguments_build_of_placeholder {q : Query} (h : q.mode = .placeholder)
    (kind : Statement.Kind) : (q.build kind).arguments.toList = holes (q.layout kind) := by
  rw [arguments_build, holes_layout, h]

end Query

end SqlAssembly
