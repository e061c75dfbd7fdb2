import Mathlib.Data.List.Forall2
import SqlAssembly.Proofs.Layout.Statement
import SqlAssembly.Proofs.Run

/-!
# Queries of one shape

Two queries have one shape if they differ only in the scalars that their conditions and
assignments hold: columns, operators, the presence of values, their kind and the lengths of
sequences agree. Queries of one shape have the same layouts up to what belongs into the holes
(`Query.SameShape.blank_layout`), so a placeholder never shows a scalar in the text.
-/

namespace SqlAssembly

open Layout

/-! ## Shapes of values, conditions and assignments -/

/-- Both are single scalars, or both are sequences of one length. -/
def Value.SameShape : Value → Value → Prop
  | .scalar _, .scalar _ => True
  | .sequence items, .sequence others => items.length = others.length
  | _, _ => False

structure Condition.SameShape (c d : Condition) : Prop where
  column : c.column = d.column
  operator : c.operator = d.operator
  value : Option.Rel Value.SameShape c.value d.value

def Assignment.SameShape (a b : Assignment) : Prop := a.column = b.column

/-- Groups agree in number, and their conditions one by one. -/
structure Filter.SameShape (f g : Filter) : Prop where
  required : List.Forall₂ (List.Forall₂ Condition.SameShape) f.required g.required
  alternatives : List.Forall₂ (List.Forall₂ Condition.SameShape) f.alternatives g.alternatives

/-- The queries agree on everything but the scalars in their conditions and assignments. -/
structure Query.SameShape (p q : Query) : Prop where
  config : p.config = q.config
  source : p.source = q.source
  columns : p.columns = q.columns
  joins : p.joins = q.joins
  filter : p.filter.SameShape q.filter
  grouping : p.grouping = q.grouping
  ordering : p.ordering = q.ordering
  limit : p.limit = q.limit
  offset : p.offset = q.offset
  assignments : List.Forall₂ Assignment.SameShape p.assignments q.assignments

theorem map_eq_of_forall₂ {α β : Type} {R : α → α → Prop} {f : α → β}
    (agrees : ∀ a b, R a b → f a = f b) {xs ys : List α} (related : List.Forall₂ R xs ys) :
    xs.map f = ys.map f := by
  induction related with
  | nil => rfl
  | cons first _ ih => rw [List.map_cons, List.map_cons, agrees _ _ first, ih]

/-! ## Layouts of one shape -/

theorem fill_numbered_congr {l m : Layout Scalar} (same : blank l = blank m) (k : Nat) :
    l.fill Rendering.numbered k = m.fill Rendering.numbered k := by
  calc l.fill Rendering.numbered k
    _ = (blank l).fill (fun i _ => "$" ++ toString i) k := (fill_blank _ k l).symm
    _ = (blank m).fill (fun i _ => "$" ++ toString i) k := by rw [same]
    _ = m.fill Rendering.numbered k := fill_blank _ k m

/-- The holes of a sequence look alike, so only their number is left. -/
theorem blank_separated_holes (sep : String) (items : List Scalar) :
    blank (separated sep (items.map ([.hole ·]))) =
      separated sep (List.replicate items.length [.hole ()]) := by
  rw [blank_separated, List.map_map, ← List.map_const]
  rfl

theorem Value.SameShape.blank_layout {v w : Value} (same : v.SameShape w) (isList : Bool) :
    blank (v.layout isList) = blank (w.layout isList) := by
  cases v with
  | scalar s =>
      cases w with
      | scalar t => rfl
      | sequence others => exact same.elim
  | sequence items =>
      cases w with
      | scalar t => exact same.elim
      | sequence others =>
          have length : items.length = others.length := same
          cases isList <;> simp [Value.layout, blank_separated_holes, length]

theorem Condition.SameShape.blank_layout {c d : Condition} (same : c.SameShape d) :
    blank c.layout = blank d.layout := by
  have list : c.isListOperator = d.isListOperator := by
    rw [Condition.isListOperator, Condition.isListOperator, same.operator]
  have value := same.value
  cases hc : c.value with
  | none =>
      cases hd : d.value with
      | none => simp [Condition.layout, hc, hd, same.column, same.operator]
      | some w => rw [hc, hd] at value; cases value
  | some v =>
      cases hd : d.value with
      | none => rw [hc, hd] at value; cases value
      | some w =>
          rw [hc, hd] at value
          cases value with
          | some related =>
              simp [Condition.layout, hc, hd, same.column, same.operator, list,
                related.blank_layout]

theorem Group.blank_layout_eq {group other : Group}
    (same : List.Forall₂ Condition.SameShape group other) :
    blank group.layout = blank other.layout := by
  have conditions : (group.map Condition.layout).map blank =
      (other.map Condition.layout).map blank := by
    rw [List.map_map, List.map_map]
    exact map_eq_of_forall₂ (fun _ _ h => h.blank_layout) same
  rw [Group.layout_eq, Group.layout_eq, blank_grouped, blank_grouped, conditions]

namespace Filter.SameShape

variable {f g : Filter}

theorem map_blank_groups {groups others : List Group}
    (same : List.Forall₂ (List.Forall₂ Condition.SameShape) groups others) :
    (groups.map Group.layout).map blank = (others.map Group.layout).map blank := by
  rw [List.map_map, List.map_map]
  exact map_eq_of_forall₂ (fun _ _ h => Group.blank_layout_eq h) same

theorem blank_layout (same : f.SameShape g) : blank f.layout = blank g.layout := by
  have required := map_blank_groups same.required
  have alternatives := map_blank_groups same.alternatives
  rw [layout_eq, layout_eq, blank_filtered, blank_filtered, required, alternatives]

end Filter.SameShape

theorem Assignment.blank_layoutAll_eq {assignments others : List Assignment}
    (same : List.Forall₂ Assignment.SameShape assignments others) :
    blank (Assignment.layoutAll assignments) = blank (Assignment.layoutAll others) := by
  have agrees (a b : Assignment) (h : a.SameShape b) : blank a.layout = blank b.layout := by
    rw [Assignment.layout, Assignment.layout, show a.column = b.column from h]
    rfl
  have columns := map_eq_of_forall₂ agrees same
  rw [Assignment.layoutAll, Assignment.layoutAll, blank_separated, blank_separated, List.map_map,
    List.map_map]
  exact congrArg (separated ", ") columns

namespace Query.SameShape

variable {p q : Query}

theorem blank_layout (same : p.SameShape q) (kind : Statement.Kind) :
    blank (p.layout kind) = blank (q.layout kind) := by
  have filter := same.filter.blank_layout
  have assignments := Assignment.blank_layoutAll_eq same.assignments
  cases kind <;>
    simp only [Query.layout, blank_cons, blank_append, filter, assignments, projectionText,
      sourceText, joinText, groupText, orderText, limitText, offsetText, same.columns,
      same.source, same.joins, same.grouping, same.ordering, same.limit, same.offset]

theorem mode (same : p.SameShape q) : p.mode = q.mode :=
  congrArg Config.mode same.config

theorem length_holes (same : p.SameShape q) (kind : Statement.Kind) :
    (holes (p.layout kind)).length = (holes (q.layout kind)).length := by
  rw [← length_holes_blank, same.blank_layout, length_holes_blank]

/-! ## Texts without scalars -/

theorem length_assigned (same : p.SameShape q) (kind : Statement.Kind) :
    (p.assigned kind).length = (q.assigned kind).length := by
  cases kind <;> simp [assigned, same.assignments.length_eq]

/-- In placeholder mode no scalar reaches a text or the number of arguments: statements of
queries of one shape differ only in the arguments themselves. In literal mode the same holds of
an UPDATE for the scalars that it assigns. -/
theorem build_agrees (same : p.SameShape q) :
    (p.mode = .placeholder → ∀ kind,
        (p.build kind).sql = (q.build kind).sql ∧
          (p.build kind).arguments.size = (q.build kind).arguments.size) ∧
      (p.mode = .literal → p.filter = q.filter →
        (p.build .update).sql = (q.build .update).sql ∧
          (p.build .update).arguments.size = (q.build .update).arguments.size) := by
  constructor
  · intro hp kind
    have hq : q.mode = .placeholder := same.mode ▸ hp
    constructor
    · rw [sql_build, sql_build, mark_of_placeholder hp, mark_of_placeholder hq]
      exact fill_numbered_congr (same.blank_layout kind) 0
    · rw [← Arguments.length_toList, ← Arguments.length_toList,
        arguments_build_of_placeholder hp, arguments_build_of_placeholder hq,
        same.length_holes kind]
  · intro hp filter
    have hq : q.mode = .literal := same.mode ▸ hp
    have assigned := same.length_assigned .update
    have assignments := fill_numbered_congr (Assignment.blank_layoutAll_eq same.assignments) 0
    constructor
    · rw [sql_update, sql_update, sourceText, sourceText, same.source, assignments, filter,
        same.mode, assigned]
    · rw [← Arguments.length_toList, ← Arguments.length_toList, arguments_build,
        arguments_build, hp, hq, List.append_nil, List.append_nil, assigned]

end Query.SameShape

theorem Query.usersBy_sameShape (mode : Rendering.Mode) (s t : Scalar) (items others : List Scalar)
    (hs : s.IsFinite) (ht : t.IsFinite) (hi : (Value.sequence items).Sound)
    (ho : (Value.sequence others).Sound) (length : items.length = others.length) :
    (usersBy mode s items hs hi).SameShape (usersBy mode t others ht ho) where
  config := rfl
  source := rfl
  columns := rfl
  joins := rfl
  filter :=
    { required :=
        .cons (.cons ⟨rfl, rfl, .none⟩ (.cons ⟨rfl, rfl, .some length⟩ .nil)) .nil
      alternatives := .cons (.cons ⟨rfl, rfl, .some length⟩ .nil) .nil }
  grouping := rfl
  ordering := rfl
  limit := rfl
  offset := rfl
  assignments := .cons rfl .nil

/-- Texts that try to leave the statement, and a truth value, in the place of integers. -/
theorem Query.SameShape.build_agrees_usersBy :
    ((Query.usersBy .placeholder (.text "'; --") [.bool true, .text "$1) OR (1 = 1"] trivial
        (by decide)).build .update).sql =
      ((Query.usersBy .placeholder (.int 7) [.int 18, .int 65] trivial
        (by decide)).build .update).sql ∧
    ((Query.usersBy .literal (.text "'; --") [.int 18, .int 65] trivial
        (by decide)).build .update).sql =
      ((Query.usersBy .literal (.int 7) [.int 18, .int 65] trivial
        (by decide)).build .update).sql := by
  have numbered := Query.usersBy_sameShape .placeholder (.text "'; --") (.int 7)
    [.bool true, .text "$1) OR (1 = 1"] [.int 18, .int 65] trivial trivial (by decide) (by decide)
    rfl
  have inline := Query.usersBy_sameShape .literal (.text "'; --") (.int 7)
    [.int 18, .int 65] [.int 18, .int 65] trivial trivial (by decide) (by decide) rfl
  exact ⟨((Query.SameShape.build_agrees numbered).1 rfl .update).1,
    ((Query.SameShape.build_agrees inline).2 rfl rfl).1⟩

end SqlAssembly
