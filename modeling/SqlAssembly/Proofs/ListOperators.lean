import SqlAssembly.Proofs.Layout.Clauses

/-!
# List operators

A list operator puts the scalars of a sequence into parentheses, whatever the mode and whatever
was rendered before. It does not do so with a single scalar, which stands alone under every
operator, so exactly the sequences come out as lists (`Condition.render_parenthesized_iff`).
-/

namespace SqlAssembly

namespace Condition

/-- Column, operator in upper case, and the rendered scalars of the value as a list. -/
def listText (c : Condition) (v : Value) (r : Rendering) : String :=
  c.column ++ " " ++ Text.upper c.operator ++ " (" ++
    ", ".intercalate (Rendering.each (fun s r => r.scalar s) v.scalars r).1 ++ ")"

theorem render_sequence {c : Condition} (list : c.isListOperator = true) {items : List Scalar}
    (value : c.value = some (.sequence items)) (r : Rendering) :
    (c.render r).1 = c.listText (.sequence items) r := by
  have blank : " (" = " " ++ "(" := rfl
  simp only [render, value, Value.render, list, if_true, listText, Value.scalars, blank,
    String.append_assoc]

theorem render_scalar {c : Condition} {s : Scalar} (value : c.value = some (.scalar s))
    (r : Rendering) :
    (c.render r).1 = c.column ++ " " ++ Text.upper c.operator ++ " " ++ (r.scalar s).1 := by
  simp only [render, value, Value.render]

/-- The text of a single scalar lacks the two parentheses. -/
theorem render_scalar_ne_listText {c : Condition} {s : Scalar}
    (value : c.value = some (.scalar s)) (r : Rendering) :
    (c.render r).1 ≠ c.listText (.scalar s) r := by
  intro same
  have length := congrArg String.length same
  rw [render_scalar value r, listText] at length
  simp only [Value.scalars, Rendering.each, String.intercalate_singleton, String.length_append]
    at length
  have one : " ".length = 1 := rfl
  have two : " (".length = 2 := rfl
  omega

/-- Under a list operator a value comes out as a list in parentheses if and only if it is a
sequence; a single scalar stands behind the operator as it is rendered. -/
theorem render_parenthesized_iff {c : Condition} (list : c.isListOperator = true) {v : Value}
    (value : c.value = some v) (r : Rendering) :
    ((c.render r).1 = c.listText v r ↔ ∃ items, v = .sequence items) ∧
      ∀ s, v = .scalar s →
        (c.render r).1 = c.column ++ " " ++ Text.upper c.operator ++ " " ++ (r.scalar s).1 := by
  constructor
  · cases v with
    | scalar s =>
        constructor
        · intro same
          exact absurd same (render_scalar_ne_listText value r)
        · rintro ⟨items, h⟩
          cases h
    | sequence items =>
        constructor
        · intro _
          exact ⟨items, rfl⟩
        · intro _
          exact render_sequence list value r
  · rintro s rfl
    exact render_scalar value r

def roles : Condition :=
  ⟨"role", " Not In", some (.sequence [.text "admin", .int 18]), by decide, by decide, by decide⟩

theorem render_parenthesized_roles :
    roles.isListOperator = true ∧
      ((roles.render (.start .literal)).1 =
          roles.listText (.sequence [.text "admin", .int 18]) (.start .literal) ↔
        ∃ items, Value.sequence [.text "admin", .int 18] = .sequence items) ∧
      roles.listText (.sequence [.text "admin", .int 18]) (.start .literal) =
        "role  NOT IN ('admin', 18)" := by
  have list : roles.isListOperator = true := by decide +kernel
  exact ⟨list, (render_parenthesized_iff list rfl (.start .literal)).1, by decide +kernel⟩

/-- A single scalar is accepted under a list operator and written without parentheses. -/
theorem render_scalar_under_in :
    ∃ c, Condition.binary "id" "in" (.scalar (.int 1)) = .ok c ∧ c.isListOperator = true ∧
      (c.render (.start .placeholder)).1 = "id IN $1" ∧
      c.listText (.scalar (.int 1)) (.start .placeholder) = "id IN ($1)" := by
  refine ⟨⟨"id", "in", some (.scalar (.int 1)), by decide, by decide, by decide⟩, rfl, ?_, ?_, ?_⟩
  · decide +kernel
  · decide +kernel
  · decide +kernel

end Condition

end SqlAssembly
