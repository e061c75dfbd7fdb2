import SqlAssembly.Proofs.Layout.Clauses
import SqlAssembly.Proofs.Parentheses
import SqlAssembly.Proofs.PlainText

/-!
# Reading the WHERE clause back

The text of a filter says which groups are joined by AND and which by OR, although conditions are
full of both words: a group is one pair of parentheses, and a reader that cuts only outside of
parentheses finds exactly the groups that were written (`Filter.readOperands_render`). This needs
the caller's own texts to be balanced, those in literals included.
-/

namespace SqlAssembly

open Layout

/-! ## Balanced conditions -/

/-- Column and operator are balanced, and so are the texts if they are written inline. -/
def Condition.IsBalanced (mode : Rendering.Mode) (c : Condition) : Prop :=
  Balanced c.column ∧ Balanced (Text.upper c.operator) ∧
    (mode = .literal → ∀ t ∈ c.scalars.filterMap Scalar.text?, Balanced t)

instance (mode : Rendering.Mode) (c : Condition) : Decidable (c.IsBalanced mode) :=
  inferInstanceAs (Decidable (_ ∧ _ ∧ _))

def Filter.IsBalanced (mode : Rendering.Mode) (filter : Filter) : Prop :=
  ∀ group ∈ filter.required ++ filter.alternatives, ∀ c ∈ group, c.IsBalanced mode

instance (mode : Rendering.Mode) (filter : Filter) : Decidable (filter.IsBalanced mode) :=
  inferInstanceAs (Decidable (∀ group ∈ _, ∀ c ∈ group, Condition.IsBalanced _ c))

theorem IsPlain.clear {c : Char} (h : IsPlain c) : c ≠ '(' ∧ c ≠ ')' := by
  constructor
  · rintro rfl
    exact absurd h (by decide)
  · rintro rfl
    exact absurd h (by decide)

theorem Rendering.balanced_numbered (k : Nat) (s : Scalar) : Balanced (numbered k s) := by
  have dollar : Balanced "$" := by decide
  refine dollar.append (balanced_of_clear fun c hc => IsPlain.clear ?_)
  rw [Nat.toString_eq_repr, Nat.toList_repr] at hc
  exact isPlain_of_mem_toDigits hc

theorem Scalar.balanced_literal {s : Scalar} (h : ∀ t ∈ s.text?, Balanced t) :
    Balanced s.literal := by
  cases s with
  | text t =>
      have quote : Balanced "'" := by decide
      exact (quote.append (h t rfl)).append quote
  | int n => exact balanced_of_clear fun c hc => (isPlain_of_mem_literal rfl hc).clear
  | float x => exact balanced_of_clear fun c hc => (isPlain_of_mem_literal rfl hc).clear
  | bool b => exact balanced_of_clear fun c hc => (isPlain_of_mem_literal rfl hc).clear

theorem Condition.IsBalanced.mark {mode : Rendering.Mode} {c : Condition}
    (h : c.IsBalanced mode) (k : Nat) (s : Scalar) (hs : s ∈ c.scalars) :
    Balanced (mode.mark k s) := by
  cases mode with
  | placeholder => exact Rendering.balanced_numbered k s
  | literal =>
      refine Scalar.balanced_literal fun t ht => ?_
      exact h.2.2 rfl t (List.mem_filterMap.mpr ⟨s, hs, ht⟩)

/-! ## Balanced texts of layouts -/

theorem Layout.forall_mem_fillAll {α : Type} {P : String → Prop} {mark : Nat → α → String}
    {ls : List (Layout α)} (h : ∀ l ∈ ls, ∀ k, P (l.fill mark k)) (k : Nat) :
    ∀ t ∈ fillAll mark k ls, P t := by
  induction ls generalizing k with
  | nil =>
      intro t ht
      cases ht
  | cons l ls ih =>
      intro t ht
      rcases List.mem_cons.mp ht with rfl | others
      · exact h l List.mem_cons_self k
      · exact ih (fun m hm => h m (List.mem_cons_of_mem l hm)) _ t others

theorem Layout.balanced_separated {α : Type} {mark : Nat → α → String} {sep : String}
    (hsep : Balanced sep) {ls : List (Layout α)} (h : ∀ l ∈ ls, ∀ k, Balanced (l.fill mark k))
    (k : Nat) : Balanced ((separated sep ls).fill mark k) := by
  rw [fill_separated]
  exact balanced_intercalate hsep (forall_mem_fillAll h k)

theorem Layout.enclosed_fill {α : Type} {mark : Nat → α → String} {l : Layout α} {k : Nat}
    (h : Balanced (l.fill mark k)) :
    Enclosed (fill mark k (.text "(" :: (l ++ [.text ")"]))) := by
  refine ⟨l.fill mark k, h, ?_⟩
  rw [fill_text, fill_append, fill_text, fill_nil, String.append_empty, String.append_assoc]

variable {mode : Rendering.Mode}

theorem Value.balanced_fill (isList : Bool) {v : Value}
    (marks : ∀ k, ∀ s ∈ v.scalars, Balanced (mode.mark k s)) (k : Nat) :
    Balanced ((v.layout isList).fill mode.mark k) := by
  have hole (s : Scalar) (hs : s ∈ v.scalars) (k : Nat) :
      Balanced (fill mode.mark k [.hole s]) := by
    rw [fill_hole, fill_nil, String.append_empty]
    exact marks (k + 1) s hs
  cases v with
  | scalar s => exact hole s (.head _) k
  | sequence items =>
      have holes (sep : String) (hsep : Balanced sep) :
          Balanced ((separated sep (items.map ([.hole ·]))).fill mode.mark k) :=
        balanced_separated hsep (List.forall_mem_map.mpr hole) k
      cases isList with
      | true => exact (enclosed_fill (holes ", " (by decide))).balanced
      | false => exact holes " AND " (by decide)

theorem Condition.IsBalanced.fill {c : Condition} (h : c.IsBalanced mode) (k : Nat) :
    Balanced (c.layout.fill mode.mark k) := by
  have blank : Balanced " " := by decide
  have head : Balanced (c.column ++ (" " ++ Text.upper c.operator)) :=
    h.1.append (blank.append h.2.1)
  cases hv : c.value with
  | none => simpa only [layout, hv, fill_text, fill_nil, String.append_empty] using head
  | some v =>
      have marks : ∀ k, ∀ s ∈ v.scalars, Balanced (mode.mark k s) := by
        intro k s hs
        apply h.mark
        simpa [scalars, hv] using hs
      have value := v.balanced_fill c.isListOperator marks k
      have whole := head.append (blank.append value)
      simpa only [layout, hv, fill_text, String.append_assoc] using whole

theorem Group.enclosed_layout {group : Group} (h : ∀ c ∈ group, c.IsBalanced mode) (k : Nat) :
    Enclosed (group.layout.fill mode.mark k) := by
  have conditions : ∀ l ∈ group.map Condition.layout, ∀ k, Balanced (l.fill mode.mark k) :=
    List.forall_mem_map.mpr fun c hc => (h c hc).fill
  exact enclosed_fill (balanced_separated (by decide) conditions k)

theorem Group.enclosed_each {groups : List Group} {r : Rendering}
    (h : ∀ group ∈ groups, ∀ c ∈ group, c.IsBalanced r.mode) :
    ∀ t ∈ (Rendering.each Group.render groups r).1, Enclosed t := by
  rw [Rendering.each_eq_of_mode Group.render_eq]
  exact forall_mem_fillAll (List.forall_mem_map.mpr fun group hg => enclosed_layout (h group hg)) _

/-! ## Reading operands -/

/-- The operands of OR, each as the operands of its AND, read outside of all parentheses. -/
def readOperands (condition : String) : List (List String) :=
  (cutOutside " OR " condition).map (cutOutside " AND ")

theorem cutOutside_and {ts : List String} (nonempty : ts ≠ []) (h : ∀ t ∈ ts, Enclosed t) :
    cutOutside " AND " (" AND ".intercalate ts) = ts :=
  cutOutside_intercalate rfl nonempty fun t ht => (h t ht).whole (by decide) _

/-- Outside of parentheses a reader of OR passes over AND if a parenthesis follows. Before other
texts the blank behind AND could begin a separator. -/
theorem piecesFrom_or_and (rest : List Char) :
    piecesFrom " OR ".toList 0 0 (" AND ".toList ++ '(' :: rest) =
      (piecesFrom " OR ".toList 0 0 ('(' :: rest)).modifyHead (" AND ".toList ++ ·) := by
  change piecesFrom " OR ".toList 0 0 (' ' :: 'A' :: 'N' :: 'D' :: ' ' :: '(' :: rest) = _
  rw [piecesFrom_pass (by rfl) (by rfl), piecesFrom_pass (by rfl) (by rfl),
    piecesFrom_pass (by rfl) (by rfl), piecesFrom_pass (by rfl) (by rfl),
    piecesFrom_pass (by rfl) (by rfl)]
  cases piecesFrom " OR ".toList 0 0 ('(' :: rest) <;> rfl

theorem whole_and {ts : List String} (h : ∀ t ∈ ts, Enclosed t) :
    Whole " OR ".toList (" AND ".intercalate ts).toList := by
  induction ts with
  | nil => exact whole_nil _
  | cons t ts ih =>
      have first : Whole " OR ".toList t.toList := (h t List.mem_cons_self).whole (by decide) _
      have others := ih fun u hu => h u (List.mem_cons_of_mem t hu)
      cases ts with
      | nil =>
          rw [String.intercalate_singleton]
          exact first
      | cons u ts =>
          intro rest
          have enclosed : Enclosed u := h u (by simp)
          obtain ⟨cs, start⟩ := enclosed.start_intercalate " AND " ts
          have between := piecesFrom_or_and (cs ++ rest)
          rw [← List.cons_append, ← start, others rest] at between
          rw [String.intercalate_cons_cons, String.toList_append, String.toList_append,
            List.append_assoc, List.append_assoc, first, between, modifyHead_append,
            modifyHead_append, List.append_assoc]

/-- The groups that are joined by AND are one operand of OR, if there are any; every other group
is an operand by itself. -/
theorem readOperands_intercalate {ands ors : List String} (nonempty : ands ≠ [] ∨ ors ≠ [])
    (hands : ∀ t ∈ ands, Enclosed t) (hors : ∀ t ∈ ors, Enclosed t) :
    readOperands
        (" OR ".intercalate ((if ands = [] then [] else [" AND ".intercalate ands]) ++ ors)) =
      (if ands = [] then [] else [ands]) ++ ors.map ([·]) := by
  have alone (t : String) (ht : t ∈ ors) : cutOutside " AND " t = [t] := by
    have cut := cutOutside_and (List.cons_ne_nil t []) (by simpa using hors t ht)
    rwa [String.intercalate_singleton] at cut
  have wholes : ∀ t ∈ ors, Whole " OR ".toList t.toList :=
    fun t ht => (hors t ht).whole (by decide) _
  have each : ors.map (cutOutside " AND ") = ors.map ([·]) := List.map_congr_left alone
  by_cases noAnds : ands = []
  · have ne : ors ≠ [] := nonempty.resolve_left (not_not_intro noAnds)
    rw [if_pos noAnds, if_pos noAnds, List.nil_append, List.nil_append, readOperands,
      cutOutside_intercalate rfl ne wholes, each]
  · have operands : ∀ t ∈ " AND ".intercalate ands :: ors, Whole " OR ".toList t.toList :=
      List.forall_mem_cons.mpr ⟨whole_and hands, wholes⟩
    rw [if_neg noAnds, if_neg noAnds, List.singleton_append, List.singleton_append, readOperands,
      cutOutside_intercalate rfl (List.cons_ne_nil _ _) operands, List.map_cons,
      cutOutside_and noAnds hands, each]

/-! ## The WHERE clause -/

theorem Rendering.fst_each_eq_nil_iff {α : Type} (render : α → Rendering → String × Rendering)
    (xs : List α) (r : Rendering) : (each render xs r).1 = [] ↔ xs = [] := by
  cases xs <;> simp [each]

namespace Filter

theorem fst_operands (filter : Filter) (r : Rendering) :
    let ands := Rendering.each Group.render filter.required r
    (filter.operands r).1 =
      (if ands.1 = [] then [] else [" AND ".intercalate ands.1]) ++
        (Rendering.each Group.render filter.alternatives ands.2).1 := by
  intro ands
  cases h : filter.required with
  | nil => simp [operands, ands, h, Rendering.each]
  | cons group groups => simp [operands, ands, h, Rendering.each]

/-- The WHERE clause is read back as what it was made from, whatever was rendered before it. Cut
outside of parentheses, it has the required groups joined by AND as its first operand of OR, if
there are any, and then every alternative; each is the whole text of one group in one pair of
parentheses. So it holds of a row if all required groups hold or one alternative does. -/
theorem readOperands_render (filter : Filter) (r : Rendering)
    (nonempty : filter.required ≠ [] ∨ filter.alternatives ≠ [])
    (balanced : filter.IsBalanced r.mode) :
    let ands := Rendering.each Group.render filter.required r
    let ors := Rendering.each Group.render filter.alternatives ands.2
    ∃ condition : String,
      (filter.render r).1 = " WHERE " ++ condition ∧
        readOperands condition =
          (if filter.required = [] then [] else [ands.1]) ++ ors.1.map ([·]) ∧
        (∀ t ∈ ands.1 ++ ors.1, Enclosed t) ∧
        ∀ holds : String → Prop,
          (∃ operand ∈ readOperands condition, ∀ t ∈ operand, holds t) ↔
            (filter.required ≠ [] ∧ ∀ t ∈ ands.1, holds t) ∨ ∃ t ∈ ors.1, holds t := by
  intro ands ors
  have mode : ands.2.mode = r.mode := by
    simp only [ands, Rendering.each_eq_of_mode Group.render_eq, Rendering.mode_collect]
  have noAnds : ands.1 = [] ↔ filter.required = [] := Rendering.fst_each_eq_nil_iff _ _ _
  have noOrs : ors.1 = [] ↔ filter.alternatives = [] := Rendering.fst_each_eq_nil_iff _ _ _
  have hands : ∀ t ∈ ands.1, Enclosed t :=
    Group.enclosed_each fun group hg => balanced group (List.mem_append_left _ hg)
  have hors : ∀ t ∈ ors.1, Enclosed t := by
    refine Group.enclosed_each fun group hg => ?_
    rw [mode]
    exact balanced group (List.mem_append_right _ hg)
  have read := readOperands_intercalate (by rwa [Ne, noAnds, Ne, noOrs]) hands hors
  rw [← fst_operands] at read
  simp only [noAnds] at read
  refine ⟨_, ?_, read, List.forall_mem_append.mpr ⟨hands, hors⟩, ?_⟩
  · have groups : ¬ (filter.required = [] ∧ filter.alternatives = []) := by
      rw [not_and_or]
      exact nonempty
    rw [render, if_neg groups]
  · intro holds
    rw [read]
    by_cases noRequired : filter.required = [] <;> simp [noRequired]

/-- Both words and parentheses in a column and in a text, a range and a list. -/
def nested : Filter where
  required :=
    [[⟨"coalesce(a, b) OR (c AND d)", "=", some (.scalar (.text "(x) OR (y AND z)")), by decide,
        by decide, by decide⟩],
      [⟨"price", "Between", some (.sequence [.int 18, .int 65]), by decide, by decide, by decide⟩,
        ⟨"kind", "In", some (.sequence [.int 1, .int 2]), by decide, by decide, by decide⟩]]
  alternatives := [[⟨"sold", "Is", some (.scalar (.bool true)), by decide, by decide, by decide⟩]]

theorem readOperands_render_nested :
    nested.IsBalanced .literal ∧
      ∃ condition : String,
        (nested.render (.start .literal)).1 = " WHERE " ++ condition ∧
          readOperands condition =
            [["(coalesce(a, b) OR (c AND d) = '(x) OR (y AND z)')",
                "(price BETWEEN 18 AND 65 AND kind IN (1, 2))"],
              ["(sold IS true)"]] := by
  have balanced : nested.IsBalanced .literal := by decide +kernel
  obtain ⟨condition, text, read, _⟩ :=
    readOperands_render nested (.start .literal) (.inl (by decide)) balanced
  exact ⟨balanced, condition, text, read.trans (by decide +kernel)⟩

end Filter

end SqlAssembly
