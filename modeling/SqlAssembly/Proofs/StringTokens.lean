import SqlAssembly.Proofs.Layout.Texts
import SqlAssembly.Proofs.PlainText
import SqlAssembly.Proofs.Soundness

/-!
# String tokens of literal mode

Literal mode puts texts between apostrophes and escapes nothing. As long as no apostrophe comes
from the caller, the apostrophes of a statement are those around the texts, and every text is one
string token (`Query.stringTokens_build`). So no text, whatever else it holds, reaches beyond its
quotes: with the tokens blanked a statement is the statement of the same query with empty texts.
-/

namespace SqlAssembly

open Layout

/-! ## Scanning -/

/-- What stands between an apostrophe and the next one, from left to right. The first argument is
what has been read since an apostrophe that is still open; if it stays open, there is no answer. -/
def tokensFrom : Option (List Char) → List Char → Option (List String)
  | none, [] => some []
  | some _, [] => none
  | none, c :: cs => if c = '\'' then tokensFrom (some []) cs else tokensFrom none cs
  | some inside, c :: cs =>
      if c = '\'' then (tokensFrom none cs).map (String.ofList inside :: ·)
      else tokensFrom (some (inside ++ [c])) cs

/-- The string tokens of a text, if none is left open. -/
def stringTokens (sql : String) : Option (List String) := tokensFrom none sql.toList

/-- The characters without those that stand between an apostrophe and the next one. -/
def blankFrom : (inside : Bool) → List Char → List Char
  | _, [] => []
  | inside, c :: cs =>
      if c = '\'' then c :: blankFrom (!inside) cs
      else if inside then blankFrom inside cs
      else c :: blankFrom inside cs

/-- The text with every string token empty. -/
def blankTokens (sql : String) : String := String.ofList (blankFrom false sql.toList)

section Scanning

variable {cs : List Char}

theorem tokensFrom_append (plain : '\'' ∉ cs) (rest : List Char) :
    tokensFrom none (cs ++ rest) = tokensFrom none rest := by
  induction cs with
  | nil => rfl
  | cons c cs ih =>
      rw [List.mem_cons, not_or] at plain
      obtain ⟨first, others⟩ := plain
      rw [List.cons_append, tokensFrom, if_neg (Ne.symm first), ih others]

theorem tokensFrom_close (plain : '\'' ∉ cs) (inside rest : List Char) :
    tokensFrom (some inside) (cs ++ '\'' :: rest) =
      (tokensFrom none rest).map (String.ofList (inside ++ cs) :: ·) := by
  induction cs generalizing inside with
  | nil => rw [List.nil_append, tokensFrom, if_pos rfl, List.append_nil]
  | cons c cs ih =>
      rw [List.mem_cons, not_or] at plain
      obtain ⟨first, others⟩ := plain
      rw [List.cons_append, tokensFrom, if_neg (Ne.symm first), ih others, List.append_assoc]
      rfl

theorem blankFrom_append (plain : '\'' ∉ cs) (rest : List Char) :
    blankFrom false (cs ++ rest) = cs ++ blankFrom false rest := by
  induction cs with
  | nil => rfl
  | cons c cs ih =>
      rw [List.mem_cons, not_or] at plain
      obtain ⟨first, others⟩ := plain
      rw [List.cons_append, blankFrom, if_neg (Ne.symm first), if_neg Bool.false_ne_true, ih others]
      rfl

theorem blankFrom_close (plain : '\'' ∉ cs) (rest : List Char) :
    blankFrom true (cs ++ '\'' :: rest) = '\'' :: blankFrom false rest := by
  induction cs with
  | nil => rw [List.nil_append, blankFrom, if_pos rfl, Bool.not_true]
  | cons c cs ih =>
      rw [List.mem_cons, not_or] at plain
      obtain ⟨first, others⟩ := plain
      rw [List.cons_append, blankFrom, if_neg (Ne.symm first), if_pos rfl, ih others]

theorem tokensFrom_quoted (plain : '\'' ∉ cs) (rest : List Char) :
    tokensFrom none ('\'' :: (cs ++ '\'' :: rest)) =
      (tokensFrom none rest).map (String.ofList cs :: ·) := by
  rw [tokensFrom, if_pos rfl, tokensFrom_close plain, List.nil_append]

theorem blankFrom_quoted (plain : '\'' ∉ cs) (rest : List Char) :
    blankFrom false ('\'' :: (cs ++ '\'' :: rest)) = '\'' :: '\'' :: blankFrom false rest := by
  rw [blankFrom, if_pos rfl, Bool.not_false, blankFrom_close plain]

end Scanning

/-! ## Literals -/

namespace Scalar

/-- The scalar with nothing in its text. -/
def emptied : Scalar → Scalar
  | .text _ => .text ""
  | s => s

/-- Not a text, or one without an apostrophe. -/
def IsQuotable (s : Scalar) : Prop := ∀ t ∈ s.text?, '\'' ∉ t.toList

instance (s : Scalar) : Decidable s.IsQuotable :=
  inferInstanceAs (Decidable (∀ t ∈ s.text?, '\'' ∉ t.toList))

theorem eq_text_of_text? {s : Scalar} {t : String} (held : s.text? = some t) : s = .text t := by
  cases s with
  | text u =>
      cases held
      rfl
  | _ => cases held

theorem emptied_of_text? {s : Scalar} (notText : s.text? = none) : s.emptied = s := by
  cases s with
  | text u => cases notText
  | _ => rfl

theorem toList_literal_text (t : String) (rest : List Char) :
    (Scalar.text t).literal.toList ++ rest = '\'' :: (t.toList ++ '\'' :: rest) := by
  simp [literal]

theorem quote_notMem_literal {s : Scalar} (notText : s.text? = none) :
    '\'' ∉ s.literal.toList := by
  intro quote
  exact absurd (isPlain_of_mem_literal notText quote) (by decide)

/-- A literal is one token if it is a text's, and no token otherwise. -/
theorem tokensFrom_literal {s : Scalar} (quotable : s.IsQuotable) (rest : List Char) :
    tokensFrom none (s.literal.toList ++ rest) =
      (tokensFrom none rest).map (s.text?.toList ++ ·) := by
  cases held : s.text? with
  | none =>
      rw [tokensFrom_append (quote_notMem_literal held)]
      exact Option.map_id'.symm
  | some t =>
      have plain := quotable t held
      rw [eq_text_of_text? held, toList_literal_text, tokensFrom_quoted plain,
        String.ofList_toList]
      rfl

theorem blankFrom_literal {s : Scalar} (quotable : s.IsQuotable) (rest : List Char) :
    blankFrom false (s.literal.toList ++ rest) =
      s.emptied.literal.toList ++ blankFrom false rest := by
  cases held : s.text? with
  | none => rw [emptied_of_text? held, blankFrom_append (quote_notMem_literal held)]
  | some t =>
      have plain := quotable t held
      rw [eq_text_of_text? held, toList_literal_text, blankFrom_quoted plain, emptied,
        toList_literal_text]
      rfl

end Scalar

/-! ## Filled layouts -/

namespace Layout

variable {l : Layout Scalar}

/-- The tokens of a layout filled with literals are the texts in its holes. -/
theorem tokensFrom_fill (avoids : Avoids '\'' (texts l)) (quotable : ∀ s ∈ holes l, s.IsQuotable)
    (k : Nat) (rest : List Char) :
    tokensFrom none ((fill Rendering.Mode.literal.mark k l).toList ++ rest) =
      (tokensFrom none rest).map ((holes l).filterMap Scalar.text? ++ ·) := by
  -- Between two fragments no quote is open, so what follows is scanned from the start.
  induction l generalizing k with
  | nil => exact Option.map_id'.symm
  | cons f l ih =>
      cases f with
      | text t =>
          rw [texts_text, avoids_cons] at avoids
          rw [fill_text, String.toList_append, List.append_assoc, tokensFrom_append avoids.1,
            ih avoids.2 quotable k]
          rfl
      | hole s =>
          have first : s.IsQuotable := quotable s List.mem_cons_self
          have others : ∀ t ∈ holes l, t.IsQuotable :=
            fun t ht => quotable t (List.mem_cons_of_mem s ht)
          have mark : Rendering.Mode.literal.mark (k + 1) s = s.literal := rfl
          rw [fill_hole, String.toList_append, List.append_assoc, mark,
            Scalar.tokensFrom_literal first, ih avoids others, Option.map_map, holes_hole,
            List.filterMap_cons]
          cases s <;> rfl

/-- Blanking the tokens leaves what is filled with empty texts. -/
theorem blankFrom_fill (avoids : Avoids '\'' (texts l)) (quotable : ∀ s ∈ holes l, s.IsQuotable)
    (k : Nat) (rest : List Char) :
    blankFrom false ((fill Rendering.Mode.literal.mark k l).toList ++ rest) =
      (fill Rendering.Mode.literal.mark k (mapHoles Scalar.emptied l)).toList ++
        blankFrom false rest := by
  induction l generalizing k with
  | nil => rfl
  | cons f l ih =>
      cases f with
      | text t =>
          rw [texts_text, avoids_cons] at avoids
          rw [fill_text, String.toList_append, List.append_assoc, blankFrom_append avoids.1,
            ih avoids.2 quotable k, mapHoles_text, fill_text, String.toList_append,
            List.append_assoc]
      | hole s =>
          have first : s.IsQuotable := quotable s List.mem_cons_self
          have others : ∀ t ∈ holes l, t.IsQuotable :=
            fun t ht => quotable t (List.mem_cons_of_mem s ht)
          have mark (t : Scalar) : Rendering.Mode.literal.mark (k + 1) t = t.literal := rfl
          rw [fill_hole, String.toList_append, List.append_assoc, mark,
            Scalar.blankFrom_literal first, ih avoids others, mapHoles_hole, fill_hole, mark,
            String.toList_append, List.append_assoc]

end Layout

/-! ## Queries with empty texts -/

theorem Scalar.isFinite_emptied {s : Scalar} (finite : s.IsFinite) : s.emptied.IsFinite := by
  cases s with
  | text t => trivial
  | _ => exact finite

def Value.emptied : Value → Value
  | .scalar s => .scalar s.emptied
  | .sequence items => .sequence (items.map Scalar.emptied)

theorem Value.scalars_emptied (v : Value) : v.emptied.scalars = v.scalars.map Scalar.emptied := by
  cases v <;> rfl

theorem Value.Sound.emptied {v : Value} (sound : v.Sound) : v.emptied.Sound := by
  rw [Value.Sound, Value.scalars_emptied]
  refine ⟨fun none => sound.1 (List.map_eq_nil_iff.mp none), List.forall_mem_map.mpr fun s hs => ?_⟩
  exact Scalar.isFinite_emptied (sound.2 s hs)

def Condition.emptied (c : Condition) : Condition where
  column := c.column
  operator := c.operator
  value := c.value.map Value.emptied
  column_visible := c.column_visible
  operator_visible := c.operator_visible
  value_sound := by
    intro v present
    obtain ⟨w, held, rfl⟩ := Option.map_eq_some_iff.mp present
    exact (c.value_sound w held).emptied

def Group.emptied (group : Group) : Group := group.map Condition.emptied

def Filter.emptied (filter : Filter) : Filter :=
  ⟨filter.required.map Group.emptied, filter.alternatives.map Group.emptied⟩

/-- The query with nothing in the texts of its conditions. -/
def Query.emptied (q : Query) : Query := { q with filter := q.filter.emptied }

theorem Value.layout_emptied (isList : Bool) (v : Value) :
    v.emptied.layout isList = mapHoles Scalar.emptied (v.layout isList) := by
  cases v with
  | scalar s => rfl
  | sequence items =>
      cases isList with
      | false => exact (mapHoles_separated_holes Scalar.emptied " AND " items).symm
      | true => simp [emptied, layout, mapHoles_separated_holes]

theorem Condition.layout_emptied (c : Condition) :
    c.emptied.layout = mapHoles Scalar.emptied c.layout := by
  cases held : c.value with
  | none => simp [layout, emptied, held]
  | some v =>
      have list : c.emptied.isListOperator = c.isListOperator := rfl
      have value : c.emptied.value = c.value.map Value.emptied := rfl
      simp only [layout, list, value, held, Option.map_some, Value.layout_emptied, mapHoles_text]
      rfl

theorem Group.layout_emptied (group : Group) :
    group.emptied.layout = mapHoles Scalar.emptied group.layout := by
  have conditions : group.emptied.map Condition.layout =
      (group.map Condition.layout).map (mapHoles Scalar.emptied) := by
    rw [emptied, List.map_map, List.map_map]
    exact List.map_congr_left fun c _ => c.layout_emptied
  rw [layout_eq, layout_eq, mapHoles_grouped, conditions]

theorem Filter.layout_emptied (filter : Filter) :
    filter.emptied.layout = mapHoles Scalar.emptied filter.layout := by
  have groups (gs : List Group) : (gs.map Group.emptied).map Group.layout =
      (gs.map Group.layout).map (mapHoles Scalar.emptied) := by
    rw [List.map_map, List.map_map]
    exact List.map_congr_left fun g _ => g.layout_emptied
  rw [layout_eq, layout_eq, mapHoles_filtered, emptied, groups, groups]

/-! ## Statements -/

theorem Rendering.quote_notMem_numbered (k : Nat) (s : Scalar) : '\'' ∉ (numbered k s).toList :=
  notMem_append (by decide) (notMem_toString_nat (by decide) k)

namespace Query

/-- No apostrophe in what the caller supplied, be it copied as it is or a text of a condition. -/
structure IsQuotable (q : Query) : Prop where
  raw : Avoids '\'' q.rawTexts
  scalars : ∀ s ∈ q.filter.scalars, s.IsQuotable

variable {q : Query}

theorem quote_notMem_own : Avoids '\'' ownTexts := by decide

theorem quote_notMem_opening (raw : Avoids '\'' q.rawTexts) (kind : Statement.Kind) :
    '\'' ∉ (q.opening kind).toList := by
  simp only [rawTexts, avoids_append] at raw
  obtain ⟨names, columns, joins, -, assignments, -, -⟩ := raw
  have source := notMem_sourceText quote_notMem_own names
  have joined := notMem_joinText quote_notMem_own joins
  cases kind with
  | select =>
      have select := quote_notMem_own "SELECT " (by decide)
      have projection := notMem_projectionText quote_notMem_own columns
      have origin := quote_notMem_own " FROM " (by decide)
      exact notMem_append (notMem_append (notMem_append (notMem_append select projection) origin)
        source) joined
  | count =>
      have count := quote_notMem_own "SELECT COUNT(*) AS total FROM " (by decide)
      exact notMem_append (notMem_append count source) joined
  | update =>
      have update := quote_notMem_own "UPDATE " (by decide)
      have set := quote_notMem_own " SET " (by decide)
      have assigned : '\'' ∉ (Assignment.renderAll q.assignments (.start q.mode)).1.toList := by
        rw [render_assignments_start]
        exact notMem_fill (Assignment.avoids_layoutAll quote_notMem_own assignments)
          Rendering.quote_notMem_numbered 0
      exact notMem_append (notMem_append (notMem_append update source) set) assigned

theorem quote_notMem_ending (raw : Avoids '\'' q.rawTexts) (kind : Statement.Kind) :
    '\'' ∉ (q.ending kind).toList := by
  simp only [rawTexts, avoids_append] at raw
  obtain ⟨-, -, -, -, -, grouping, ordering⟩ := raw
  cases kind with
  | select =>
      have group := notMem_groupText quote_notMem_own grouping
      have order := notMem_orderText quote_notMem_own ordering
      exact notMem_append (notMem_append (notMem_append group order)
        (notMem_limitText quote_notMem_own)) (notMem_offsetText quote_notMem_own)
  | count | update => exact List.not_mem_nil

/-- What is needed of the WHERE clause for scanning it. -/
theorem IsQuotable.filter (quotable : q.IsQuotable) :
    Avoids '\'' (texts q.filter.layout) ∧ ∀ s ∈ holes q.filter.layout, s.IsQuotable := by
  have raw := quotable.raw
  simp only [rawTexts, avoids_append] at raw
  rw [Filter.holes_layout]
  exact ⟨Filter.avoids_layout quote_notMem_own raw.2.2.2.1, quotable.scalars⟩

theorem toList_sql (mode : q.mode = .literal) (kind : Statement.Kind) :
    (q.build kind).sql.toList = (q.opening kind).toList ++
      ((q.filter.layout.fill Rendering.Mode.literal.mark (q.assigned kind).length).toList ++
        (q.ending kind).toList) := by
  rw [sql_around_where, whereText_eq_fill, mode, String.toList_append, String.toList_append,
    List.append_assoc]

theorem opening_emptied (q : Query) (kind : Statement.Kind) :
    q.emptied.opening kind = q.opening kind := by cases kind <;> rfl

theorem assigned_emptied (q : Query) (kind : Statement.Kind) :
    q.emptied.assigned kind = q.assigned kind := by cases kind <;> rfl

theorem ending_emptied (q : Query) (kind : Statement.Kind) :
    q.emptied.ending kind = q.ending kind := by cases kind <;> rfl

theorem stringTokens_sql (mode : q.mode = .literal) (quotable : q.IsQuotable)
    (kind : Statement.Kind) :
    stringTokens (q.build kind).sql = some (q.filter.scalars.filterMap Scalar.text?) := by
  obtain ⟨avoids, scalars⟩ := quotable.filter
  have ending := tokensFrom_append (quote_notMem_ending quotable.raw kind) []
  rw [List.append_nil] at ending
  rw [stringTokens, toList_sql mode, tokensFrom_append (quote_notMem_opening quotable.raw kind),
    tokensFrom_fill avoids scalars, ending, Filter.holes_layout]
  exact congrArg some (List.append_nil _)

theorem blankTokens_sql (mode : q.mode = .literal) (quotable : q.IsQuotable)
    (kind : Statement.Kind) :
    blankTokens (q.build kind).sql = (q.emptied.build kind).sql := by
  obtain ⟨avoids, scalars⟩ := quotable.filter
  have ending := blankFrom_append (quote_notMem_ending quotable.raw kind) []
  rw [List.append_nil] at ending
  have emptied := toList_sql (q := q.emptied) mode kind
  rw [opening_emptied, ending_emptied, assigned_emptied] at emptied
  rw [blankTokens, toList_sql mode, blankFrom_append (quote_notMem_opening quotable.raw kind),
    blankFrom_fill avoids scalars, ending, ← Filter.layout_emptied, blankFrom, List.append_nil]
  exact String.toList_injective (String.toList_ofList.trans emptied.symm)

/-- In literal mode the string tokens of every statement are the texts of the conditions, those of
the required groups first and each list in its order, and nothing is left open, provided that
neither these texts nor the others of the caller contain an apostrophe. The statement with its
tokens blanked is that of the query with empty texts, so two queries that differ only in such texts
cannot be told apart by it. -/
theorem stringTokens_build (mode : q.mode = .literal) (quotable : q.IsQuotable)
    (kind : Statement.Kind) :
    stringTokens (q.build kind).sql =
        some ((q.filter.required.flatMap Group.scalars ++
          q.filter.alternatives.flatMap Group.scalars).filterMap Scalar.text?) ∧
      blankTokens (q.build kind).sql = (q.emptied.build kind).sql ∧
      ∀ p : Query, p.IsQuotable → p.emptied = q.emptied →
        blankTokens (p.build kind).sql = blankTokens (q.build kind).sql := by
  refine ⟨stringTokens_sql mode quotable kind, blankTokens_sql mode quotable kind, ?_⟩
  intro p other same
  have literal : p.mode = .literal := (congrArg Query.mode same).trans mode
  rw [blankTokens_sql literal other, blankTokens_sql mode quotable, same]

/-- Texts that try to leave the statement, and an assigned one that is no part of it. -/
theorem stringTokens_build_usersBy :
    let q := usersBy .literal (.text "it's") [.text ") OR (1 = 1) -- $2", .text ""] trivial
      (by decide)
    q.IsQuotable ∧
      stringTokens (q.build .update).sql =
        some [") OR (1 = 1) -- $2", "", ") OR (1 = 1) -- $2", ""] ∧
      blankTokens (q.build .update).sql =
        "UPDATE \"users\" AS \"u\" SET name = $1" ++
          " WHERE (deleted_at IS NULL AND age BETWEEN '' AND '') OR (id IN ('', ''))" := by
  intro q
  have quotable : q.IsQuotable := ⟨by decide +kernel, by decide +kernel⟩
  obtain ⟨tokens, blanked, -⟩ := stringTokens_build (q := q) rfl quotable .update
  exact ⟨quotable, tokens, blanked.trans (by decide +kernel)⟩

end Query

end SqlAssembly
