import SqlAssembly.Proofs.Numbering
import SqlAssembly.Session

/-!
# Reported parameters

A report tells scalars that are also bound. Every scalar of a statement is bound for an assignment
or for a condition, and the layout of the statement can be drawn with this in its holes, so that
each placeholder is inside the text of what it is bound for. Without the assignments, and without
the conditions over sequences, the arguments of a statement are the parameters of its report, one
by one and under the same columns (`Query.run_reports_bound`).
-/

namespace SqlAssembly

open Layout

/-! ## Layouts of statements from layouts of their parts -/

section Assemble

variable {α β : Type} (f : α → β)
  (assigned : Assignment → Layout α) (compared : Condition → Layout α)

/-- The layout of a filter whose conditions are laid out in some way. -/
def Filter.assemble (filter : Filter) : Layout α :=
  let layoutGroups (groups : List Group) := groups.map fun group => grouped (group.map compared)
  filtered (layoutGroups filter.required) (layoutGroups filter.alternatives)

/-- The layout of a statement whose assignments and conditions are laid out in some way. -/
def Query.assemble (q : Query) : Statement.Kind → Layout α
  | .select =>
      .text "SELECT " :: .text q.projectionText :: .text " FROM " :: .text q.sourceText ::
        .text q.joinText :: (q.filter.assemble compared ++
          [.text q.groupText, .text q.orderText, .text q.limitText, .text q.offsetText])
  | .count =>
      .text "SELECT COUNT(*) AS total FROM " :: .text q.sourceText :: .text q.joinText ::
        q.filter.assemble compared
  | .update =>
      .text "UPDATE " :: .text q.sourceText :: .text " SET " ::
        (separated ", " (q.assignments.map assigned) ++ q.filter.assemble compared)

theorem Filter.holes_assemble (filter : Filter) :
    holes (filter.assemble compared) =
      (filter.required ++ filter.alternatives).flatten.flatMap fun c => holes (compared c) := by
  have groups (gs : List Group) :
      (gs.map fun group => grouped (group.map compared)).flatMap holes =
        gs.flatten.flatMap fun c => holes (compared c) := by
    rw [List.flatMap_map, List.flatten_eq_flatMap, List.flatMap_assoc]
    refine List.flatMap_congr fun group _ => ?_
    rw [holes_grouped, List.flatMap_map, id]
  rw [assemble, holes_filtered, groups, groups, List.flatten_append, List.flatMap_append]

theorem Query.holes_assemble (q : Query) (kind : Statement.Kind) :
    holes (q.assemble assigned compared kind) =
      (match kind with
        | .select | .count => []
        | .update => q.assignments.flatMap fun a => holes (assigned a)) ++
      q.conditions.flatMap fun c => holes (compared c) := by
  cases kind <;>
    simp [assemble, Filter.holes_assemble, Query.conditions, List.flatMap_map]

theorem Filter.mapHoles_assemble (filter : Filter) :
    mapHoles f (filter.assemble compared) = filter.assemble fun c => mapHoles f (compared c) := by
  have groups (gs : List Group) :
      (gs.map fun group => grouped (group.map compared)).map (mapHoles f) =
        gs.map fun group => grouped (group.map fun c => mapHoles f (compared c)) := by
    rw [List.map_map]
    refine List.map_congr_left fun group _ => ?_
    rw [Function.comp_apply, mapHoles_grouped, List.map_map]
    rfl
  rw [assemble, mapHoles_filtered, groups, groups, assemble]

theorem Query.mapHoles_assemble (q : Query) (kind : Statement.Kind) :
    mapHoles f (q.assemble assigned compared kind) =
      q.assemble (fun a => mapHoles f (assigned a)) (fun c => mapHoles f (compared c)) kind := by
  cases kind <;>
    simp [assemble, Filter.mapHoles_assemble, mapHoles_separated, Function.comp_def]

/-- The layout of a statement is put together from the layouts of its parts. -/
theorem Query.layout_eq_assemble (q : Query) (kind : Statement.Kind) :
    q.layout kind = q.assemble Assignment.layout Condition.layout kind := by
  have filter : q.filter.layout = q.filter.assemble Condition.layout := q.filter.layout_eq
  cases kind with
  | select => rw [layout, filter]; rfl
  | count => rw [layout, filter]; rfl
  | update => rw [layout, filter]; rfl

end Assemble

/-! ## What a scalar is bound for -/

/-- A scalar of a statement together with the part that has it. -/
inductive BoundScalar where
  | assigned (a : Assignment)
  | compared (c : Condition) (s : Scalar)

namespace BoundScalar

def scalar : BoundScalar → Scalar
  | .assigned a => a.value
  | .compared _ s => s

def column : BoundScalar → String
  | .assigned a => a.column
  | .compared c _ => c.column

/-- The scalar is bound for a condition that compares with a sequence. -/
def isOfSequence : BoundScalar → Bool
  | .assigned _ => false
  | .compared c _ => c.value matches some (.sequence _)

end BoundScalar

namespace Query

/-- The layout of a statement with the part that each scalar is bound for in the holes. -/
def bindings (q : Query) : Statement.Kind → Layout BoundScalar :=
  q.assemble (fun a => mapHoles (fun _ => .assigned a) a.layout)
    (fun c => mapHoles (.compared c) c.layout)

theorem mapHoles_scalar_bindings (q : Query) (kind : Statement.Kind) :
    mapHoles BoundScalar.scalar (q.bindings kind) = q.layout kind := by
  have compared (c : Condition) :
      mapHoles BoundScalar.scalar (mapHoles (.compared c) c.layout) = c.layout := by
    rw [mapHoles_mapHoles]
    exact mapHoles_id c.layout
  rw [bindings, mapHoles_assemble, layout_eq_assemble]
  simp only [compared]
  rfl

theorem holes_bindings (q : Query) (kind : Statement.Kind) :
    holes (q.bindings kind) =
      (match kind with
        | .select | .count => []
        | .update => q.assignments.map .assigned) ++
      q.conditions.flatMap fun c => c.scalars.map (.compared c) := by
  have assigned : (q.assignments.flatMap fun a =>
      holes (mapHoles (fun _ => BoundScalar.assigned a) a.layout)) =
        q.assignments.map .assigned :=
    List.flatMap_pure_eq_map _ _
  rw [bindings, holes_assemble, assigned]
  simp only [holes_mapHoles, Condition.holes_layout]

end Query

/-! ## Parameters -/

/-- The column and the value of a parameter; other attributes have none. -/
def Attribute.parameter? (a : Attribute) : Option (String × String) :=
  (a.key.toList.dropPrefix? "db.query.parameter.".toList).map fun column =>
    (String.ofList column, a.value)

theorem Attribute.parameter?_of_key (column value : String) :
    (⟨"db.query.parameter." ++ column, value⟩ : Attribute).parameter? = some (column, value) := by
  unfold parameter?
  rw [String.toList_append, List.dropPrefix?_append_of_beq _ (by simp)]
  simp

theorem Attribute.parameter?_eq_none {key : String}
    (fixed : key ∈ ["db.collection.name", "db.operation.name", "db.query.text"])
    (value : String) : (⟨key, value⟩ : Attribute).parameter? = none := by
  have unlike : key.toList.dropPrefix? "db.query.parameter.".toList = none := by
    revert key
    decide +kernel
  rw [parameter?, unlike]
  rfl

/-- The parameter of a condition is its scalar, unless it has a sequence of them or none. -/
theorem Condition.parameter?_eq (c : Condition) :
    (c.parameter?.bind Attribute.parameter?).toList =
      ((c.scalars.map (BoundScalar.compared c)).filter (!·.isOfSequence)).map fun b =>
        (b.column, b.scalar.display) := by
  unfold parameter? scalars
  cases held : c.value with
  | none => rfl
  | some v =>
      cases v with
      | scalar s =>
          simp [Attribute.parameter?_of_key, Value.scalars, BoundScalar.isOfSequence, held,
            BoundScalar.column, BoundScalar.scalar]
      | sequence items =>
          simp [BoundScalar.isOfSequence, held]

namespace Query

/-- The parameters of a report are those of its conditions, whatever text is reported with them. -/
theorem parameters_report (q : Query) (sql : String) :
    (q.report sql).filterMap Attribute.parameter? =
      ((q.conditions.flatMap fun c => c.scalars.map (BoundScalar.compared c)).filter
        (!·.isOfSequence)).map fun b => (b.column, b.scalar.display) := by
  have others : (q.sourceAttribute ++
      ([⟨"db.operation.name", "SELECT"⟩, ⟨"db.query.text", sql⟩] : List Attribute)).filterMap
        Attribute.parameter? = [] := by
    unfold sourceAttribute
    cases q.source <;> simp [Attribute.parameter?_eq_none]
  rw [report, List.filterMap_append, others, List.nil_append, List.filterMap_filterMap,
    List.filterMap_eq_flatMap_toList, List.filter_flatMap, List.map_flatMap]
  exact List.flatMap_congr fun c _ => c.parameter?_eq

/-- A report tells, in order, the scalars that are bound for the conditions over one scalar. In
placeholder mode each number in the text stands for the argument of this number, inside the part
that it is bound for. Assigned scalars come first, only in an update, and the scalars of the
conditions follow. Without the assigned scalars and those of sequences, the arguments as they are
displayed are the parameters that any sink receives, each under the column of its condition, and in
literal mode the sink receives the same parameters. -/
theorem run_reports_bound (steps : List Step) (sink : Sink) (s : Session)
    (kind : Statement.Kind) :
    let q (mode : Rendering.Mode) := (new ⟨mode, some sink⟩).run steps
    let asked (mode : Rendering.Mode) : Session := { s with query := q mode }
    let told (mode : Rendering.Mode) := (q mode).report ((q mode).build kind).sql
    let bindings := (q .placeholder).bindings kind
    let assigned :=
      match kind with
      | .select | .count => []
      | .update => steps.flatMap Step.assignments
    let conditions := (steps.flatMap Step.required ++ steps.flatMap Step.alternatives).flatten
    (∀ mode, (asked mode).build kind =
      ((q mode).build kind,
        ((asked mode).emit [statementEvent kind ((q mode).build kind)]).deliver (told mode) sink)) ∧
    ((q .placeholder).build kind).sql = bindings.fill (fun k _ => "$" ++ toString k) 0 ∧
    ((q .placeholder).build kind).arguments.toList = (holes bindings).map BoundScalar.scalar ∧
    holes bindings =
      assigned.map .assigned ++ conditions.flatMap (fun c => c.scalars.map (.compared c)) ∧
    (((holes bindings).drop assigned.length).filter (!·.isOfSequence)).map
        (fun b => (b.column, b.scalar.display)) =
      (told .placeholder).filterMap Attribute.parameter? ∧
    (told .literal).filterMap Attribute.parameter? =
      (told .placeholder).filterMap Attribute.parameter? := by
  intro q asked told bindings assigned conditions
  have sinks (mode : Rendering.Mode) : (q mode).config.sink = some sink := by
    rw [run_config]
    rfl
  have numbered : (q .placeholder).mode = .placeholder := by
    rw [Query.mode, run_config]
    rfl
  have filters (mode : Rendering.Mode) : (q mode).conditions = conditions := by
    rw [Query.conditions, run_filter]
    rfl
  have layout : mapHoles BoundScalar.scalar bindings = (q .placeholder).layout kind :=
    (q .placeholder).mapHoles_scalar_bindings kind
  have bound : holes bindings =
      assigned.map .assigned ++ conditions.flatMap (fun c => c.scalars.map (.compared c)) := by
    rw [holes_bindings, filters, run_assignments]
    cases kind <;> rfl
  have parameters (mode : Rendering.Mode) : (told mode).filterMap Attribute.parameter? =
      ((conditions.flatMap fun c => c.scalars.map (BoundScalar.compared c)).filter
        (!·.isOfSequence)).map fun b => (b.column, b.scalar.display) := by
    rw [parameters_report, filters]
  refine ⟨fun mode => ?_, ?_, ?_, bound, ?_, ?_⟩
  · unfold Session.build
    simp only [asked, sinks]
    rfl
  · rw [sql_build, mark_of_placeholder numbered, ← layout, fill_mapHoles]
    rfl
  · rw [arguments_build_of_placeholder numbered, ← layout, holes_mapHoles]
  · rw [parameters, bound, List.drop_left' (List.length_map _)]
  · rw [parameters, parameters]

/-- A list of one is still a list: of four arguments the third alone is told. -/
example :
    let named : Condition :=
      ⟨"u.name", "=", some (.scalar (.text "Tom")), by decide, by decide,
        fun _ h => Option.some.inj h ▸ by decide⟩
    let q := (usersBy .placeholder (.text "Mark") [.int 18] trivial (by decide)).run
      [.require [named]]
    (q.build .update).arguments.toList = [.text "Mark", .int 18, .text "Tom", .int 18] ∧
      (q.report (q.build .update).sql).filterMap Attribute.parameter? = [("u.name", "Tom")] := by
  decide +kernel

end Query

end SqlAssembly
