import SqlAssembly.Proofs.Identifiers
import SqlAssembly.Proofs.Soundness

/-!
# Table names in statements

A reader that is placed behind the keyword of a statement's own table, or behind the keyword of a
join, finds the names that were given, whatever characters they have, and stops where they end
(`Query.read_names`). The name of a table can imitate neither an alias nor a clause, and what
comes behind a table begins with a clause, which goes on neither with the name nor with an alias.
-/

namespace SqlAssembly

open TableReference

/-! ## What follows a table -/

/-- What the clauses behind a table begin with. -/
def clauseWords : List String :=
  [" INNER JOIN ", " LEFT JOIN ", " RIGHT JOIN ", " FULL JOIN ", " SET ", " WHERE ", " GROUP BY ",
    " ORDER BY ", " LIMIT ", " OFFSET "]

/-- The text ends, or a clause begins. -/
def BeginsClause (t : String) : Prop :=
  t = "" ∨ ∃ word ∈ clauseWords, ∃ more : String, t = word ++ more

theorem BeginsClause.append {s t : String} (hs : BeginsClause s) (ht : BeginsClause t) :
    BeginsClause (s ++ t) := by
  rcases hs with rfl | ⟨word, mem, more, rfl⟩
  · rwa [String.empty_append]
  · exact .inr ⟨word, mem, more ++ t, String.append_assoc⟩

theorem BeginsClause.of_word {word : String} (mem : word ∈ clauseWords) (more : String) :
    BeginsClause (word ++ more) := .inr ⟨word, mem, more, rfl⟩

/-- A table ends at a blank behind which no alias can begin. -/
theorem stops_of_word {word : String} {c : Char} {cs : List Char}
    (start : word.toList = ' ' :: c :: cs) (other : c ≠ 'A') (more : String) :
    Stops (word ++ more).toList := by
  rw [String.toList_append, start]
  refine ⟨by simp, fun marked => ?_⟩
  rw [aliasMark, List.cons_append, List.cons_append, List.cons_prefix_cons,
    List.cons_prefix_cons] at marked
  exact other marked.2.1.symm

theorem BeginsClause.stops {t : String} (h : BeginsClause t) : Stops t.toList := by
  rcases h with rfl | ⟨word, mem, more, rfl⟩
  · exact ⟨by simp, by decide⟩
  · simp only [clauseWords, List.mem_cons, List.not_mem_nil, or_false] at mem
    rcases mem with rfl | rfl | rfl | rfl | rfl | rfl | rfl | rfl | rfl | rfl
    all_goals exact stops_of_word rfl (by decide) more

/-! ## Joins -/

/-- The joins in order, each with a blank before it. -/
def Join.listText (joins : List Join) : String := String.join (joins.map (" " ++ ·.sql))

/-- What is written of a join behind its keyword. -/
def Join.targetText (j : Join) : String := j.target.sql ++ " ON " ++ j.on

theorem Join.blank_sql (j : Join) : " " ++ j.sql = " " ++ j.kind.sql ++ " " ++ j.targetText := by
  simp only [sql, targetText, String.append_assoc]

theorem Join.beginsClause (j : Join) : BeginsClause (" " ++ j.sql) := by
  rw [j.blank_sql]
  have keyword : " " ++ j.kind.sql ++ " " ∈ clauseWords := by
    cases j.kind with
    | inner | left | right | full => decide
  exact .of_word keyword j.targetText

theorem Join.beginsClause_listText (joins : List Join) : BeginsClause (Join.listText joins) := by
  induction joins with
  | nil => exact .inl rfl
  | cons j joins ih =>
      rw [listText, List.map_cons, String.join_cons]
      exact j.beginsClause.append ih

/-- The text from a join's target on, with the joins behind it. -/
theorem Join.listText_split (before after : List Join) (j : Join) :
    Join.listText (before ++ j :: after) =
      Join.listText before ++ " " ++ j.kind.sql ++ " " ++
        (j.targetText ++ Join.listText after) := by
  simp only [listText, List.map_append, List.map_cons, String.join_append, String.join_cons,
    j.blank_sql, String.append_assoc]

/-! ## Statements -/

namespace Query

variable {q : Query}

/-- The text up to the keyword of the statement's own table, with the blank behind it. -/
def beforeTable (q : Query) : Statement.Kind → String
  | .select => "SELECT " ++ q.projectionText ++ " FROM "
  | .count => "SELECT COUNT(*) AS total FROM "
  | .update => "UPDATE "

/-- The clauses behind the joins. -/
def behindJoins (q : Query) (kind : Statement.Kind) : String := q.whereText kind ++ q.ending kind

/-- The clauses behind the statement's own table: joins come first, and an UPDATE has its
assignments in their place. -/
def behindTable (q : Query) (kind : Statement.Kind) : String :=
  match kind with
  | .select | .count => Join.listText q.joins ++ q.behindJoins kind
  | .update =>
      " SET " ++ (Assignment.renderAll q.assignments (.start q.mode)).1 ++ q.behindJoins kind

theorem sql_around_table (q : Query) (kind : Statement.Kind) :
    (q.build kind).sql = q.beforeTable kind ++ (q.sourceText ++ q.behindTable kind) := by
  rw [sql_around_where]
  cases kind with
  | select =>
      calc q.opening .select ++ q.whereText .select ++ q.ending .select
        _ = "SELECT " ++ q.projectionText ++ " FROM " ++ q.sourceText ++ Join.listText q.joins ++
              q.whereText .select ++ q.ending .select := rfl
        _ = "SELECT " ++ q.projectionText ++ " FROM " ++ (q.sourceText ++
              (Join.listText q.joins ++ (q.whereText .select ++ q.ending .select))) := by
            simp only [String.append_assoc]
  | count =>
      calc q.opening .count ++ q.whereText .count ++ q.ending .count
        _ = "SELECT COUNT(*) AS total FROM " ++ q.sourceText ++ Join.listText q.joins ++
              q.whereText .count ++ q.ending .count := rfl
        _ = "SELECT COUNT(*) AS total FROM " ++ (q.sourceText ++
              (Join.listText q.joins ++ (q.whereText .count ++ q.ending .count))) := by
            simp only [String.append_assoc]
  | update =>
      calc q.opening .update ++ q.whereText .update ++ q.ending .update
        _ = "UPDATE " ++ q.sourceText ++ " SET " ++
              (Assignment.renderAll q.assignments (.start q.mode)).1 ++
              q.whereText .update ++ q.ending .update := rfl
        _ = "UPDATE " ++ (q.sourceText ++ (" SET " ++
              (Assignment.renderAll q.assignments (.start q.mode)).1 ++
              (q.whereText .update ++ q.ending .update))) := by
            simp only [String.append_assoc]

theorem beginsClause_whereText (q : Query) (kind : Statement.Kind) :
    BeginsClause (q.whereText kind) := by
  obtain ⟨r, written⟩ := q.whereText_eq_render kind
  rw [written]
  rcases q.filter.render_cases r with ⟨_, none⟩ | ⟨_, condition, some⟩
  · exact .inl none
  · rw [some]
    exact .of_word (by decide) condition

theorem beginsClause_ending (q : Query) (kind : Statement.Kind) :
    BeginsClause (q.ending kind) := by
  cases kind with
  | count | update => exact .inl rfl
  | select =>
      have group : BeginsClause q.groupText := by
        rw [groupText]
        split
        · exact .inl rfl
        · exact .of_word (by decide) _
      have order : BeginsClause q.orderText := by
        rw [orderText]
        split
        · exact .inl rfl
        · exact .of_word (by decide) _
      have limit : BeginsClause q.limitText := by
        rw [limitText]
        split
        · exact .inl rfl
        · exact .of_word (by decide) _
      have offset : BeginsClause q.offsetText := by
        rw [offsetText]
        split
        · exact .inl rfl
        · exact .of_word (by decide) _
      exact ((group.append order).append limit).append offset

theorem beginsClause_behindJoins (q : Query) (kind : Statement.Kind) :
    BeginsClause (q.behindJoins kind) :=
  (q.beginsClause_whereText kind).append (q.beginsClause_ending kind)

theorem beginsClause_behindTable (q : Query) (kind : Statement.Kind) :
    BeginsClause (q.behindTable kind) := by
  have joined := (Join.beginsClause_listText q.joins).append (q.beginsClause_behindJoins kind)
  cases kind with
  | select | count => exact joined
  | update =>
      rw [behindTable, String.append_assoc]
      exact .of_word (by decide) _

/-- Behind the keyword of its own table a statement is read as the raw names of the table, and
the reader stops where the other clauses begin. In the same way each join is read behind its
keyword, and the reader stops at ON. An UPDATE has no joins. -/
theorem read_names {t : TableReference} (source : q.source = some t) (kind : Statement.Kind) :
    (∃ text : String, (q.build kind).sql = q.beforeTable kind ++ text ∧
        TableReference.read text.toList = some (t.rawNames, (q.behindTable kind).toList) ∧
        BeginsClause (q.behindTable kind)) ∧
      (kind ≠ .update → ∀ before j after, q.joins = before ++ j :: after →
        ∃ text tail : String,
          (q.build kind).sql = q.beforeTable kind ++ t.sql ++ Join.listText before ++ " " ++
              j.kind.sql ++ " " ++ text ∧
            TableReference.read text.toList =
              some (j.target.rawNames, (" ON " ++ j.on ++ tail).toList) ∧
            BeginsClause tail) := by
  have table : q.sourceText = t.sql := by simp only [sourceText, source]
  have whole := q.sql_around_table kind
  have clauses := q.beginsClause_behindTable kind
  rw [table] at whole
  constructor
  · refine ⟨_, whole, ?_, clauses⟩
    rw [String.toList_append, t.read_sql clauses.stops]
  · intro select before j after joins
    have behind : q.behindTable kind = Join.listText before ++ " " ++ j.kind.sql ++ " " ++
        (j.targetText ++ Join.listText after) ++ q.behindJoins kind := by
      rw [← Join.listText_split, ← joins]
      cases kind with
      | select | count => rfl
      | update => exact absurd rfl select
    have others := (Join.beginsClause_listText after).append (q.beginsClause_behindJoins kind)
    refine ⟨j.targetText ++ (Join.listText after ++ q.behindJoins kind), _, ?_, ?_, others⟩
    · simp only [whole, behind, String.append_assoc]
    · have target : j.targetText ++ (Join.listText after ++ q.behindJoins kind) =
          j.target.sql ++ (" ON " ++ (j.on ++ (Join.listText after ++ q.behindJoins kind))) := by
        simp only [Join.targetText, String.append_assoc]
      rw [target, String.toList_append, j.target.read_sql (stops_of_word rfl (by decide) _),
        String.append_assoc]

/-- Names that look like an alias, like the mark before one and like nothing but a quote. -/
def impostors : Query :=
  { new ⟨.placeholder, none⟩ with
    source := some ⟨⟨"a\" AS \"b", by decide, by decide⟩, none⟩
    joins :=
      [⟨⟨⟨"\"", by decide, by decide⟩, some ⟨" AS \"", by decide, by decide⟩⟩, "true", .left⟩]
    limit := some 10 }

theorem read_names_impostors :
    (∃ text : String, (impostors.build .select).sql = "SELECT * FROM " ++ text ∧
      TableReference.read text.toList = some (("a\" AS \"b", none),
        " LEFT JOIN \"\"\"\" AS \" AS \"\"\" ON true LIMIT 10".toList)) ∧
      ∃ text tail : String,
        (impostors.build .select).sql = "SELECT * FROM \"a\"\" AS \"\"b\" LEFT JOIN " ++ text ∧
          TableReference.read text.toList =
            some (("\"", some " AS \""), (" ON true" ++ tail).toList) := by
  obtain ⟨⟨text, whole, read, _⟩, joins⟩ := read_names (q := impostors) rfl .select
  obtain ⟨joined, tail, split, target, _⟩ := joins (by decide) [] _ [] rfl
  have before : impostors.beforeTable .select = "SELECT * FROM " := by decide +kernel
  have behind : impostors.behindTable .select =
      " LEFT JOIN \"\"\"\" AS \" AS \"\"\" ON true LIMIT 10" := by decide +kernel
  rw [before] at whole
  rw [behind] at read
  refine ⟨⟨text, whole, read⟩, joined, tail, ?_, target⟩
  rw [split, before]
  rfl

end Query

end SqlAssembly
