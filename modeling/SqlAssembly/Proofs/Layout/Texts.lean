import Mathlib.Tactic.IntervalCases
import SqlAssembly.Proofs.Layout.Statement

/-!
# Characters of the texts in a layout

The texts of a statement's layout are put together from what the caller supplied and from a few
texts that the library writes itself. A character that occurs in neither occurs in no text of the
layout (`Query.avoids_layout`), so where a statement has it, it stands in a hole.
-/

namespace SqlAssembly

/-! ## Lists of texts -/

/-- None of the texts contains the character. -/
def Avoids (c : Char) (texts : List String) : Prop := ∀ t ∈ texts, c ∉ t.toList

instance (c : Char) (texts : List String) : Decidable (Avoids c texts) :=
  inferInstanceAs (Decidable (∀ t ∈ texts, c ∉ t.toList))

section Avoids

variable {c : Char}

@[simp] theorem avoids_nil : Avoids c [] := by simp [Avoids]

@[simp] theorem avoids_cons {t : String} {texts : List String} :
    Avoids c (t :: texts) ↔ c ∉ t.toList ∧ Avoids c texts := by
  simp [Avoids]

@[simp] theorem avoids_append {texts others : List String} :
    Avoids c (texts ++ others) ↔ Avoids c texts ∧ Avoids c others := by
  simp [Avoids, or_imp, forall_and]

theorem avoids_flatMap {α : Type} {f : α → List String} {xs : List α} :
    Avoids c (xs.flatMap f) ↔ ∀ x ∈ xs, Avoids c (f x) := by
  induction xs with
  | nil => simp
  | cons x xs ih => simp [ih]

theorem notMem_append {s t : String} (hs : c ∉ s.toList) (ht : c ∉ t.toList) :
    c ∉ (s ++ t).toList := by
  rw [String.toList_append, List.mem_append, not_or]
  exact ⟨hs, ht⟩

theorem notMem_join {texts : List String} (h : Avoids c texts) :
    c ∉ (String.join texts).toList := by
  rw [String.toList_join, List.mem_flatMap]
  rintro ⟨t, ht, hc⟩
  exact h t ht hc

theorem notMem_intercalate {sep : String} {texts : List String} (hsep : c ∉ sep.toList)
    (h : Avoids c texts) : c ∉ (sep.intercalate texts).toList :=
  intercalate_induction (by simp) notMem_append hsep h

end Avoids

/-! ## Texts of layouts -/

namespace Layout

variable {α : Type} {c : Char}

def texts : Layout α → List String
  | [] => []
  | .text t :: l => t :: texts l
  | .hole _ :: l => texts l

@[simp] theorem texts_nil : texts ([] : Layout α) = [] := rfl

@[simp] theorem texts_text (t : String) (l : Layout α) : texts (.text t :: l) = t :: texts l := rfl

@[simp] theorem texts_hole (a : α) (l : Layout α) : texts (.hole a :: l) = texts l := rfl

@[simp] theorem texts_append (l m : Layout α) : texts (l ++ m) = texts l ++ texts m := by
  induction l with
  | nil => rfl
  | cons f l ih => cases f <;> simp [ih]

theorem avoids_separated {sep : String} {ls : List (Layout α)} (hsep : c ∉ sep.toList)
    (h : ∀ l ∈ ls, Avoids c (texts l)) : Avoids c (texts (separated sep ls)) := by
  induction ls with
  | nil => simp
  | cons l ls ih =>
      have first := h l List.mem_cons_self
      have others := ih fun m hm => h m (List.mem_cons_of_mem l hm)
      cases ls with
      | nil => simpa using first
      | cons m ls =>
          rw [separated_cons, texts_append, texts_text, avoids_append, avoids_cons]
          exact ⟨first, hsep, others⟩

/-- A character that is in no text of a layout and in no mark is not in the filled text. -/
theorem notMem_fill {l : Layout α} {mark : Nat → α → String}
    (avoids : Avoids c (texts l)) (clear : ∀ k a, c ∉ (mark k a).toList) (k : Nat) :
    c ∉ (fill mark k l).toList := by
  induction l generalizing k with
  | nil => exact List.not_mem_nil
  | cons f l ih =>
      cases f with
      | text t =>
          rw [texts_text, avoids_cons] at avoids
          exact notMem_append avoids.1 (ih avoids.2 k)
      | hole a => exact notMem_append (clear (k + 1) a) (ih avoids (k + 1))

end Layout

/-! ## Where the texts come from -/

/-- What the library writes between the texts of the caller. -/
def ownTexts : List String :=
  ["SELECT ", "SELECT COUNT(*) AS total FROM ", "UPDATE ", " SET ", " FROM ", "*", ", ", " ", "\"",
    " AS ", "INNER JOIN", "LEFT JOIN", "RIGHT JOIN", "FULL JOIN", " ON ", " WHERE ", " OR ",
    " AND ", "(", ")", " = ", " GROUP BY ", " ORDER BY ", " LIMIT ", " OFFSET ", "-",
    "0123456789"]

def TableReference.names (t : TableReference) : List String :=
  t.table.name :: t.aliasName.toList.map Identifier.name

def Join.rawTexts (j : Join) : List String := j.on :: j.target.names

def Condition.rawTexts (c : Condition) : List String := [c.column, Text.upper c.operator]

def SortKey.rawTexts (key : SortKey) : List String :=
  key.column :: key.direction.toList.map fun direction => Text.upper (Text.trim direction)

def Group.rawTexts (group : Group) : List String := group.flatMap Condition.rawTexts

def Filter.rawTexts (filter : Filter) : List String :=
  filter.required.flatMap Group.rawTexts ++ filter.alternatives.flatMap Group.rawTexts

/-- What the caller supplied to be copied into the texts: names, columns, operators, directions
and ON texts, those in upper case that are written in upper case. -/
def Query.rawTexts (q : Query) : List String :=
  q.source.toList.flatMap TableReference.names ++
    (q.columns ++
      (q.joins.flatMap Join.rawTexts ++
        (q.filter.rawTexts ++
          (q.assignments.map Assignment.column ++
            (q.grouping ++ q.ordering.flatMap SortKey.rawTexts)))))

/-! ## Characters that are nobody's -/

section Foreign

open Layout

variable {c : Char} (own : Avoids c ownTexts)

include own

/-- Doubling the quotes in a name brings no other character. -/
theorem Identifier.notMem_sql {id : Identifier} (h : c ∉ id.name.toList) :
    c ∉ id.sql.toList := by
  have quote : c ≠ '"' := by simpa using own "\"" (by decide)
  have inside : c ∉ doubled id.name.toList := by
    intro hc
    obtain ⟨d, hd, hcd⟩ := List.mem_flatMap.mp hc
    by_cases hq : d = '"'
    · rw [if_pos hq] at hcd
      simp [quote] at hcd
    · rw [if_neg hq, List.mem_singleton] at hcd
      exact h (hcd ▸ hd)
  rw [toList_sql]
  simp [quote, inside]

theorem TableReference.notMem_sql {t : TableReference} (h : Avoids c t.names) :
    c ∉ t.sql.toList := by
  rw [names, avoids_cons] at h
  have table := Identifier.notMem_sql own h.1
  cases ha : t.aliasName with
  | none => simpa only [sql, ha] using table
  | some aliasName =>
      have name : c ∉ aliasName.name.toList := h.2 _ (by simp [ha])
      simp only [sql, ha]
      exact notMem_append (notMem_append table (own " AS " (by decide)))
        (Identifier.notMem_sql own name)

theorem Join.notMem_sql {j : Join} (h : Avoids c j.rawTexts) : c ∉ j.sql.toList := by
  rw [rawTexts, avoids_cons] at h
  have kind : c ∉ j.kind.sql.toList := by
    cases j.kind with
    | inner => exact own "INNER JOIN" (by decide)
    | left => exact own "LEFT JOIN" (by decide)
    | right => exact own "RIGHT JOIN" (by decide)
    | full => exact own "FULL JOIN" (by decide)
  have blank : c ∉ " ".toList := own " " (by decide)
  have on : c ∉ " ON ".toList := own " ON " (by decide)
  have target := TableReference.notMem_sql own h.2
  exact notMem_append (notMem_append (notMem_append (notMem_append kind blank) target) on) h.1

theorem SortKey.notMem_sql {key : SortKey} (h : Avoids c key.rawTexts) : c ∉ key.sql.toList := by
  rw [rawTexts, avoids_cons] at h
  cases hd : key.direction with
  | none => simpa only [sql, hd] using h.1
  | some direction =>
      have word : c ∉ (Text.upper (Text.trim direction)).toList := h.2 _ (by simp [hd])
      simp only [sql, hd]
      split
      · exact h.1
      · exact notMem_append (notMem_append h.1 (own " " (by decide))) word

theorem notMem_toString_nat (n : Nat) : c ∉ (toString n).toList := by
  intro hc
  rw [Nat.toString_eq_repr, Nat.toList_repr] at hc
  have digit : c.isDigit = true := Nat.isDigit_of_mem_toDigits (by decide) (by decide) hc
  obtain ⟨low, high⟩ := Char.isDigit_iff_toNat.mp digit
  apply own "0123456789" (by decide)
  rw [← Char.ofNat_toNat c]
  generalize c.toNat = code at low high
  change 48 ≤ code at low
  change code ≤ 57 at high
  interval_cases code <;> decide

theorem notMem_toString_int (n : Int) : c ∉ (toString n).toList := by
  rw [Int.toString_eq_repr, Int.repr_eq_if]
  split
  · exact notMem_toString_nat own n.toNat
  · exact notMem_append (own "-" (by decide)) (notMem_toString_nat own (-n).toNat)

/-! ## Clauses with values -/

theorem avoids_enclosed {l : Layout Scalar} (h : Avoids c (texts l)) :
    Avoids c (texts (.text "(" :: (l ++ [.text ")"]))) := by
  have opening : c ∉ "(".toList := own "(" (by decide)
  have closing : c ∉ ")".toList := own ")" (by decide)
  simp only [texts_text, texts_append, texts_nil, avoids_cons, avoids_append, avoids_nil]
  exact ⟨opening, h, closing, trivial⟩

theorem Value.avoids_layout (isList : Bool) (v : Value) : Avoids c (texts (v.layout isList)) := by
  have holes (sep : String) (hsep : c ∉ sep.toList) (items : List Scalar) :
      Avoids c (texts (separated sep (items.map ([.hole ·])))) :=
    avoids_separated hsep (List.forall_mem_map.mpr fun _ _ => avoids_nil)
  cases v with
  | scalar s => exact avoids_nil
  | sequence items =>
      cases isList with
      | false => exact holes " AND " (own " AND " (by decide)) items
      | true => exact avoids_enclosed own (holes ", " (own ", " (by decide)) items)

theorem Condition.avoids_layout {d : Condition} (h : Avoids c d.rawTexts) :
    Avoids c (texts d.layout) := by
  simp only [rawTexts, avoids_cons] at h
  obtain ⟨column, operator, _⟩ := h
  have blank : c ∉ " ".toList := own " " (by decide)
  simp only [layout, texts_text, avoids_cons]
  refine ⟨column, blank, operator, ?_⟩
  cases d.value with
  | none => exact avoids_nil
  | some v => exact avoids_cons.mpr ⟨blank, v.avoids_layout own _⟩

theorem Group.avoids_layout {group : Group} (h : Avoids c group.rawTexts) :
    Avoids c (texts group.layout) := by
  have conditions : ∀ l ∈ group.map Condition.layout, Avoids c (texts l) :=
    List.forall_mem_map.mpr fun d hd => d.avoids_layout own (avoids_flatMap.mp h d hd)
  exact avoids_enclosed own (avoids_separated (own " AND " (by decide)) conditions)

theorem Filter.avoids_layout {filter : Filter} (h : Avoids c filter.rawTexts) :
    Avoids c (texts filter.layout) := by
  have groups {gs : List Group} (hgs : Avoids c (gs.flatMap Group.rawTexts)) :
      ∀ l ∈ gs.map Group.layout, Avoids c (texts l) :=
    List.forall_mem_map.mpr fun g hg => g.avoids_layout own (avoids_flatMap.mp hgs g hg)
  rw [rawTexts, avoids_append] at h
  have required := avoids_separated (own " AND " (by decide)) (groups h.1)
  have operands := filter.forall_operandLayouts required (groups h.2)
  rw [layout]
  split
  · exact avoids_nil
  · rw [texts_text, avoids_cons]
    exact ⟨own " WHERE " (by decide), avoids_separated (own " OR " (by decide)) operands⟩

theorem Assignment.avoids_layoutAll {assignments : List Assignment}
    (h : Avoids c (assignments.map Assignment.column)) :
    Avoids c (texts (Assignment.layoutAll assignments)) := by
  refine avoids_separated (own ", " (by decide)) (List.forall_mem_map.mpr fun a ha => ?_)
  have column : c ∉ a.column.toList := h a.column (List.mem_map_of_mem ha)
  have equals : c ∉ " = ".toList := own " = " (by decide)
  simp only [Assignment.layout, texts_text, texts_hole, texts_nil, avoids_cons, avoids_nil]
  exact ⟨column, equals, trivial⟩

/-! ## Statements -/

namespace Query

variable {q : Query}

theorem notMem_projectionText (h : Avoids c q.columns) : c ∉ q.projectionText.toList := by
  rw [projectionText]
  split
  · exact own "*" (by decide)
  · exact notMem_intercalate (own ", " (by decide)) h

theorem notMem_sourceText (h : Avoids c (q.source.toList.flatMap TableReference.names)) :
    c ∉ q.sourceText.toList := by
  rw [sourceText]
  cases hs : q.source with
  | none => simp
  | some table =>
      rw [hs, Option.toList_some, List.flatMap_singleton] at h
      exact TableReference.notMem_sql own h

theorem notMem_joinText (h : Avoids c (q.joins.flatMap Join.rawTexts)) :
    c ∉ q.joinText.toList := by
  refine notMem_join (List.forall_mem_map.mpr fun j hj => ?_)
  exact notMem_append (own " " (by decide)) (Join.notMem_sql own (avoids_flatMap.mp h j hj))

theorem notMem_groupText (h : Avoids c q.grouping) : c ∉ q.groupText.toList := by
  rw [groupText]
  split
  · simp
  · exact notMem_append (own " GROUP BY " (by decide))
      (notMem_intercalate (own ", " (by decide)) h)

theorem notMem_orderText (h : Avoids c (q.ordering.flatMap SortKey.rawTexts)) :
    c ∉ q.orderText.toList := by
  have keys : Avoids c (q.ordering.map SortKey.sql) :=
    List.forall_mem_map.mpr fun key hkey => SortKey.notMem_sql own (avoids_flatMap.mp h key hkey)
  rw [orderText]
  split
  · simp
  · exact notMem_append (own " ORDER BY " (by decide))
      (notMem_intercalate (own ", " (by decide)) keys)

theorem notMem_limitText : c ∉ q.limitText.toList := by
  rw [limitText]
  split
  · simp
  · exact notMem_append (own " LIMIT " (by decide)) (notMem_toString_int own _)

theorem notMem_offsetText : c ∉ q.offsetText.toList := by
  rw [offsetText]
  split
  · simp
  · exact notMem_append (own " OFFSET " (by decide)) (notMem_toString_int own _)

/-- A character that neither the caller nor the library writes is in no text of a statement's
layout. -/
theorem avoids_layout (raw : Avoids c q.rawTexts) (kind : Statement.Kind) :
    Avoids c (texts (q.layout kind)) := by
  simp only [rawTexts, avoids_append] at raw
  obtain ⟨names, columns, joins, conditions, assignments, grouping, ordering⟩ := raw
  have source := notMem_sourceText own names
  have joined := notMem_joinText own joins
  have filter := Filter.avoids_layout own conditions
  cases kind with
  | select =>
      simp only [layout, texts_text, texts_append, texts_nil, avoids_cons, avoids_append,
        avoids_nil]
      exact ⟨own "SELECT " (by decide), notMem_projectionText own columns,
        own " FROM " (by decide), source, joined, filter, notMem_groupText own grouping,
        notMem_orderText own ordering, notMem_limitText own, notMem_offsetText own, trivial⟩
  | count =>
      simp only [layout, texts_text, avoids_cons]
      exact ⟨own "SELECT COUNT(*) AS total FROM " (by decide), source, joined, filter⟩
  | update =>
      simp only [layout, texts_text, texts_append, avoids_cons, avoids_append]
      exact ⟨own "UPDATE " (by decide), source, own " SET " (by decide),
        Assignment.avoids_layoutAll own assignments, filter⟩

end Query

end Foreign

end SqlAssembly
