import SqlAssembly.Proofs.Layout
import SqlAssembly.Rendering

/-!
# Layouts of the clauses that carry values

Every clause with values has a layout that is read off the clause alone. Rendering the clause is
the same as filling its layout, whatever was rendered before: `Condition.render_eq`,
`Group.render_eq`, `Filter.render_eq` and `Assignment.renderAll_eq`. A rendering that is passed
from clause to clause is thereby replaced by the place of a hole in a list.
-/

namespace SqlAssembly

open Layout

/-! ## Renderings -/

namespace Rendering

def numbered (k : Nat) (_ : Scalar) : String := "$" ++ toString k

/-- What a mode writes for the scalar of a condition. -/
def Mode.mark : Mode → Nat → Scalar → String
  | .placeholder => numbered
  | .literal => fun _ s => s.literal

def bind (items : List Scalar) (r : Rendering) : Rendering :=
  { r with counter := r.counter + items.length, arguments := items.foldl .push r.arguments }

/-- What is left of the scalars when they are rendered in a mode: literals are in the text and
leave nothing. -/
def collect : Mode → List Scalar → Rendering → Rendering
  | .placeholder, items, r => r.bind items
  | .literal, _, r => r

@[simp] theorem counter_bind (items : List Scalar) (r : Rendering) :
    (r.bind items).counter = r.counter + items.length := rfl

@[simp] theorem mode_bind (items : List Scalar) (r : Rendering) :
    (r.bind items).mode = r.mode := rfl

@[simp] theorem toList_bind (items : List Scalar) (r : Rendering) :
    (r.bind items).arguments.toList = r.arguments.toList ++ items := by
  suffices pushed : ∀ args : Arguments,
      (items.foldl .push args).toList = args.toList ++ items from pushed r.arguments
  induction items with
  | nil => simp
  | cons s items ih => simp [ih]

theorem bind_append (first second : List Scalar) (r : Rendering) :
    r.bind (first ++ second) = (r.bind first).bind second := by
  simp [bind, List.foldl_append, Nat.add_assoc]

@[simp] theorem mode_collect (mode : Mode) (items : List Scalar) (r : Rendering) :
    (r.collect mode items).mode = r.mode := by
  cases mode <;> rfl

@[simp] theorem collect_nil (mode : Mode) (r : Rendering) : r.collect mode [] = r := by
  cases mode <;> rfl

theorem collect_append (mode : Mode) (first second : List Scalar) (r : Rendering) :
    r.collect mode (first ++ second) = (r.collect mode first).collect mode second := by
  cases mode with
  | placeholder => exact bind_append first second r
  | literal => rfl

/-- After some scalars a layout is filled as if the scalars had been holes before it: they were
counted, or numbers do not matter. -/
theorem fillAll_collect (mode : Mode) (items : List Scalar) (ls : List (Layout Scalar))
    (r : Rendering) :
    fillAll mode.mark (r.collect mode items).counter ls =
      fillAll mode.mark (r.counter + items.length) ls := by
  cases mode with
  | placeholder => rfl
  | literal => exact fillAll_congr ls _ _ (fun _ _ => rfl)

end Rendering

/-- The text and the rendering after it that a layout stands for. -/
def Layout.write (mode : Rendering.Mode) (l : Layout Scalar) (r : Rendering) :
    String × Rendering :=
  (l.fill mode.mark r.counter, r.collect mode l.holes)

/-- Items that are rendered one after the other write their layouts one after the other. -/
theorem Rendering.each_eq {α : Type} {render : α → Rendering → String × Rendering}
    {layout : α → Layout Scalar} (given mode : Rendering.Mode)
    (written : ∀ x r, r.mode = given → render x r = (layout x).write mode r) (xs : List α)
    (r : Rendering) (h : r.mode = given) :
    Rendering.each render xs r =
      (fillAll mode.mark r.counter (xs.map layout),
        r.collect mode (xs.flatMap fun x => holes (layout x))) := by
  induction xs generalizing r with
  | nil => simp [Rendering.each]
  | cons x xs ih =>
      -- The rest starts from what the first item left behind; a literal leaves no number there.
      have first := written x r h
      have others := ih (r.collect mode (holes (layout x))) (by simpa using h)
      rw [fillAll_collect] at others
      simp only [Rendering.each, first, Layout.write, others, List.map_cons, fillAll_cons,
        List.flatMap_cons, collect_append]

theorem Rendering.each_eq_of_mode {α : Type} {render : α → Rendering → String × Rendering}
    {layout : α → Layout Scalar} (written : ∀ x r, render x r = (layout x).write r.mode r)
    (xs : List α) (r : Rendering) :
    Rendering.each render xs r =
      (fillAll r.mode.mark r.counter (xs.map layout),
        r.collect r.mode (xs.flatMap fun x => holes (layout x))) :=
  Rendering.each_eq r.mode r.mode (fun x s h => by rw [written x s, h]) xs r rfl

/-! ## Conditions -/

def Value.layout (isList : Bool) : Value → Layout Scalar
  | .scalar s => [.hole s]
  | .sequence items =>
      if isList then .text "(" :: (separated ", " (items.map ([.hole ·])) ++ [.text ")"])
      else separated " AND " (items.map ([.hole ·]))

def Condition.layout (c : Condition) : Layout Scalar :=
  .text c.column :: .text " " :: .text (Text.upper c.operator) ::
    match c.value with
    | none => []
    | some v => .text " " :: v.layout c.isListOperator

def Condition.scalars (c : Condition) : List Scalar := c.value.elim [] Value.scalars

theorem Value.holes_layout (isList : Bool) (v : Value) :
    holes (v.layout isList) = v.scalars := by
  cases v with
  | scalar s => rfl
  | sequence items => cases isList <;> simp [Value.layout, Value.scalars, List.flatMap_map]

@[simp] theorem Condition.holes_layout (c : Condition) : holes c.layout = c.scalars := by
  cases h : c.value <;> simp [Condition.layout, Condition.scalars, h, Value.holes_layout]

theorem Rendering.scalar_eq (s : Scalar) (r : Rendering) :
    r.scalar s = Layout.write r.mode [.hole s] r := by
  cases h : r.mode <;>
    simp [Rendering.scalar, Rendering.placeholder, h, Layout.write, Rendering.Mode.mark,
      Rendering.numbered, Rendering.collect, Rendering.bind]

theorem Value.render_eq (isList : Bool) (v : Value) (r : Rendering) :
    v.render isList r = (v.layout isList).write r.mode r := by
  cases v with
  | scalar s => exact r.scalar_eq s
  | sequence items =>
      have texts := Rendering.each_eq_of_mode Rendering.scalar_eq items r
      have same : holes ((Value.sequence items).layout isList) = items.flatMap fun s => [s] := by
        rw [Value.holes_layout]; simp [Value.scalars]
      simp only [Value.render, texts, holes_hole, holes_nil, Layout.write, same]
      cases isList <;> simp [Value.layout, fill_append, fill_separated, String.append_assoc]

theorem Condition.render_eq (c : Condition) (r : Rendering) :
    c.render r = c.layout.write r.mode r := by
  cases h : c.value with
  | none => simp [Condition.render, Condition.layout, h, Layout.write, String.append_assoc]
  | some v =>
      simp [Condition.render, Condition.layout, h, Value.render_eq, Layout.write,
        String.append_assoc]

/-! ## Joined layouts -/

namespace Layout

variable {α β : Type} (f : α → β)

/-- The layout of a group, from those of its conditions. -/
def grouped (conditions : List (Layout α)) : Layout α :=
  .text "(" :: (separated " AND " conditions ++ [.text ")"])

/-- The layout of a filter, from those of its groups. -/
def filtered : List (Layout α) → List (Layout α) → Layout α
  | [], [] => []
  | [], alternatives => .text " WHERE " :: separated " OR " alternatives
  | required, alternatives =>
      .text " WHERE " :: separated " OR " (separated " AND " required :: alternatives)

theorem holes_grouped (conditions : List (Layout α)) :
    holes (grouped conditions) = conditions.flatMap holes := by
  simp [grouped]

theorem holes_filtered (required alternatives : List (Layout α)) :
    holes (filtered required alternatives) =
      required.flatMap holes ++ alternatives.flatMap holes := by
  cases required <;> cases alternatives <;> simp [filtered]

theorem mapHoles_grouped (conditions : List (Layout α)) :
    mapHoles f (grouped conditions) = grouped (conditions.map (mapHoles f)) := by
  simp only [grouped, mapHoles_text, mapHoles_append, mapHoles_separated, mapHoles_nil]

theorem mapHoles_filtered (required alternatives : List (Layout α)) :
    mapHoles f (filtered required alternatives) =
      filtered (required.map (mapHoles f)) (alternatives.map (mapHoles f)) := by
  cases required <;> cases alternatives <;> simp [filtered, mapHoles_separated]

theorem blank_grouped (conditions : List (Layout α)) :
    blank (grouped conditions) = grouped (conditions.map blank) := by
  rw [blank_eq_mapHoles, mapHoles_grouped]

theorem blank_filtered (required alternatives : List (Layout α)) :
    blank (filtered required alternatives) =
      filtered (required.map blank) (alternatives.map blank) := by
  rw [blank_eq_mapHoles, mapHoles_filtered]

end Layout

/-! ## Groups and filters -/

def Group.layout (group : Group) : Layout Scalar :=
  .text "(" :: (separated " AND " (group.map Condition.layout) ++ [.text ")"])

theorem Group.layout_eq (group : Group) : group.layout = grouped (group.map Condition.layout) := rfl

def Group.scalars (group : Group) : List Scalar := group.flatMap Condition.scalars

@[simp] theorem Group.holes_layout (group : Group) : holes group.layout = group.scalars := by
  simp [Group.layout, Group.scalars, List.flatMap_map]

theorem Group.render_eq (group : Group) (r : Rendering) :
    group.render r = group.layout.write r.mode r := by
  have texts := Rendering.each_eq_of_mode Condition.render_eq group r
  simp [Group.render, texts, Group.layout, Layout.write, fill_append, fill_separated,
    List.flatMap_map, String.append_assoc]

namespace Filter

/-- The required groups together are the first operand, if there are any; every alternative is
one more. -/
def operandLayouts (filter : Filter) : List (Layout Scalar) :=
  match filter.required with
  | [] => filter.alternatives.map Group.layout
  | required =>
      separated " AND " (required.map Group.layout) :: filter.alternatives.map Group.layout

def layout (filter : Filter) : Layout Scalar :=
  if filter.required = [] ∧ filter.alternatives = [] then []
  else .text " WHERE " :: separated " OR " filter.operandLayouts

def scalars (filter : Filter) : List Scalar :=
  filter.required.flatMap Group.scalars ++ filter.alternatives.flatMap Group.scalars

theorem layout_eq (filter : Filter) :
    filter.layout =
      filtered (filter.required.map Group.layout) (filter.alternatives.map Group.layout) := by
  obtain ⟨required, alternatives⟩ := filter
  cases required <;> cases alternatives <;> rfl

/-- What holds of the required groups together and of each alternative holds of all operands. -/
theorem forall_operandLayouts {P : Layout Scalar → Prop} (filter : Filter)
    (required : P (separated " AND " (filter.required.map Group.layout)))
    (alternatives : ∀ l ∈ filter.alternatives.map Group.layout, P l) :
    ∀ l ∈ filter.operandLayouts, P l := by
  cases hr : filter.required with
  | nil => simpa only [operandLayouts, hr] using alternatives
  | cons group groups =>
      rw [hr] at required
      simp only [operandLayouts, hr, List.forall_mem_cons]
      exact ⟨required, alternatives⟩

theorem holes_operandLayouts (filter : Filter) :
    filter.operandLayouts.flatMap holes = filter.scalars := by
  cases h : filter.required <;>
    simp [operandLayouts, scalars, h, List.flatMap_map]

@[simp] theorem holes_layout (filter : Filter) : holes filter.layout = filter.scalars := by
  unfold layout
  split
  · next h => simp [scalars, h.1, h.2]
  · simp [holes_operandLayouts]

theorem operands_eq (filter : Filter) (r : Rendering) :
    filter.operands r =
      (fillAll r.mode.mark r.counter filter.operandLayouts,
        r.collect r.mode filter.scalars) := by
  have texts := Rendering.each_eq_of_mode Group.render_eq
  cases h : filter.required with
  | nil => simp [operands, operandLayouts, scalars, h, texts]
  | cons group groups =>
      simp only [operands, operandLayouts, scalars, h, texts, Rendering.mode_collect,
        Rendering.fillAll_collect, Rendering.collect_append, fillAll_cons, fill_separated,
        holes_separated, List.flatMap_map, Group.holes_layout]

theorem render_eq (filter : Filter) (r : Rendering) :
    filter.render r = filter.layout.write r.mode r := by
  unfold render layout
  split
  · simp [Layout.write]
  · simp [operands_eq, Layout.write, fill_separated, holes_operandLayouts]

end Filter

/-! ## Assignments -/

def Assignment.layout (a : Assignment) : Layout Scalar :=
  [.text a.column, .text " = ", .hole a.value]

def Assignment.layoutAll (assignments : List Assignment) : Layout Scalar :=
  separated ", " (assignments.map Assignment.layout)

@[simp] theorem Assignment.holes_layoutAll (assignments : List Assignment) :
    holes (Assignment.layoutAll assignments) = assignments.map Assignment.value := by
  induction assignments <;> simp_all [Assignment.layoutAll, Assignment.layout, List.flatMap_map]

/-- An assignment is numbered whatever the mode of the rendering is. -/
theorem Assignment.render_eq (a : Assignment) (r : Rendering) :
    a.render r = a.layout.write .placeholder r := by
  simp [Assignment.render, Rendering.placeholder, Assignment.layout, Layout.write,
    Rendering.Mode.mark, Rendering.numbered, Rendering.collect, Rendering.bind,
    String.append_assoc]

theorem Assignment.renderAll_eq (assignments : List Assignment) (r : Rendering) :
    Assignment.renderAll assignments r =
      (Assignment.layoutAll assignments).write .placeholder r := by
  have texts := Rendering.each_eq r.mode .placeholder
    (fun a s _ => Assignment.render_eq a s) assignments r rfl
  simp [Assignment.renderAll, texts, Assignment.layoutAll, Layout.write, fill_separated,
    List.flatMap_map]

end SqlAssembly
