import SqlAssembly.Proofs.Run
import SqlAssembly.Proofs.Shape

/-!
# Numbering

A statement in placeholder mode is its layout with `$1`, `$2`, ... in the holes, and its arguments
are what belongs into the holes (`Query.run_numbered`). The same steps in literal mode give the
same layout with literals in the holes of the filter (`Query.run_modes_share_layout`).
-/

namespace SqlAssembly

open Layout

/-! ## Scalars of a run -/

/-- The scalars that a run of steps gives to a statement, in the order of the statement: what is
assigned, then the required groups, then the alternatives, each as the steps brought them in and
read group by group, condition by condition and item by item. -/
def Step.scalars (steps : List Step) (kind : Statement.Kind) : List Scalar :=
  let assigned :=
    match kind with
    | .select | .count => []
    | .update => (steps.flatMap Step.assignments).map Assignment.value
  assigned ++ ((steps.flatMap Step.required).flatMap Group.scalars ++
    (steps.flatMap Step.alternatives).flatMap Group.scalars)

namespace Query

@[simp] theorem layout_inMode (q : Query) (mode : Rendering.Mode) (kind : Statement.Kind) :
    (q.inMode mode).layout kind = q.layout kind := by
  cases kind <;> rfl

@[simp] theorem assigned_inMode (q : Query) (mode : Rendering.Mode) (kind : Statement.Kind) :
    (q.inMode mode).assigned kind = q.assigned kind := by
  cases kind <;> rfl

@[simp] theorem mode_inMode (q : Query) (mode : Rendering.Mode) : (q.inMode mode).mode = mode := rfl

theorem new_inMode (config : Config) (mode : Rendering.Mode) :
    new (config.inMode mode) = (new config).inMode mode := rfl

/-- The same steps in both modes give one layout. In placeholder mode all holes are numbered. In
literal mode only the assigned scalars are, which come first, and the scalars of the filter stand
in the text; what is numbered is what is passed as arguments. -/
theorem run_modes_share_layout (config : Config) (steps : List Step) (kind : Statement.Kind) :
    let q := (new config).run steps
    let numbered := ((new (config.inMode .placeholder)).run steps).build kind
    let inline := ((new (config.inMode .literal)).run steps).build kind
    let m := (q.assigned kind).length
    numbered.sql = (q.layout kind).fill (fun k _ => "$" ++ toString k) 0 ∧
      numbered.arguments.toList = holes (q.layout kind) ∧
      inline.sql =
        (q.layout kind).fill (fun k s => if k ≤ m then "$" ++ toString k else s.literal) 0 ∧
      inline.arguments.toList = numbered.arguments.toList.take m := by
  intro q numbered inline m
  have hn : numbered = (q.inMode .placeholder).build kind := by
    simp only [numbered, q, new_inMode, run_inMode]
  have hi : inline = (q.inMode .literal).build kind := by
    simp only [inline, q, new_inMode, run_inMode]
  have arguments : numbered.arguments.toList = holes (q.layout kind) := by
    rw [hn, arguments_build_of_placeholder (q.mode_inMode .placeholder), layout_inMode]
  refine ⟨?_, arguments, ?_, ?_⟩
  · rw [hn, sql_build, mark_of_placeholder (q.mode_inMode .placeholder), layout_inMode]
    rfl
  · rw [hi, sql_build, layout_inMode]
    rfl
  · rw [arguments, hi, arguments_build, holes_layout, assigned_inMode, mode_inMode,
      List.append_nil, List.take_left]

end Query

end SqlAssembly
