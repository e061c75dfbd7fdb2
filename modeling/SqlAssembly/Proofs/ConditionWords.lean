import SqlAssembly.Proofs.Acceptance
import SqlAssembly.Proofs.Placeholders
import SqlAssembly.Proofs.Soundness

/-!
# Conditions word by word

A condition with one of the common operators is read back from its text: cut at blanks it begins
with the column, the operator says what follows, and so the reader knows where the condition ends
(`Condition.Form.read_words`). An `AND` inside of a BETWEEN is read with it, and the next one can
only stand between two conditions. Groups of such conditions therefore have the same text only if
they agree in columns, operators and numbers of scalars, whatever the columns are, as long as no
blank is in them (`Group.render_injective`).
-/

namespace SqlAssembly

open Layout

/-! ## Words -/

/-- The pieces between blanks. -/
def words (t : String) : List String := (t.toList.splitOn ' ').map String.ofList

theorem words_of_clear {t : String} (clear : ' ' ∉ t.toList) : words t = [t] := by
  rw [words, List.splitOn_eq_singleton clear, List.map_singleton, String.ofList_toList]

theorem words_blank (s t : String) : words (s ++ " " ++ t) = words s ++ words t := by
  have chars : (s ++ " " ++ t).toList = s.toList ++ ' ' :: t.toList := by simp
  rw [words, chars, List.splitOn_append_cons_self, List.map_append]
  rfl

theorem words_and (s t : String) : words (s ++ " AND " ++ t) = words s ++ "AND" :: words t := by
  have blanks : s ++ " AND " ++ t = s ++ " " ++ ("AND" ++ " " ++ t) := by
    simp only [String.append_assoc]
    rfl
  have one : words "AND" = ["AND"] := words_of_clear (by decide)
  rw [blanks, words_blank, words_blank, one, List.singleton_append]

theorem Rendering.clear_numbered (k : Nat) (s : Scalar) : ' ' ∉ (numbered k s).toList := by
  have dollar : ' ' ∉ "$".toList := by decide
  refine notMem_append dollar fun blank => ?_
  have digit : ' '.isDigit = true := isDigit_of_mem_toString blank
  exact absurd digit (by decide)

/-! ## Forms -/

/-- A value without its scalars. -/
inductive Value.Form where
  | scalar
  | sequence (length : Nat)
deriving DecidableEq

def Value.form : Value → Value.Form
  | .scalar _ => .scalar
  | .sequence items => .sequence items.length

theorem Scalar.allEq_append {ss ts us vs : List Scalar} (length : ss.length = ts.length)
    (h : Scalar.AllEq (ss ++ us) (ts ++ vs)) : Scalar.AllEq ss ts ∧ Scalar.AllEq us vs := by
  induction ss generalizing ts with
  | nil =>
      rw [List.eq_nil_of_length_eq_zero length.symm] at h ⊢
      exact ⟨trivial, h⟩
  | cons s ss ih =>
      cases ts with
      | nil => cases length
      | cons t ts =>
          obtain ⟨first, others⟩ := h
          obtain ⟨own, rest⟩ := ih (Nat.succ.inj length) others
          exact ⟨⟨first, own⟩, rest⟩

namespace Condition

/-- A condition without its scalars. -/
structure Form where
  column : String
  operator : String
  value : Option Value.Form
deriving DecidableEq

def form (c : Condition) : Form := ⟨c.column, c.operator, c.value.map Value.form⟩

/-- The number of scalars that belong to a form. -/
def Form.size (f : Form) : Nat :=
  match f.value with
  | none => 0
  | some .scalar => 1
  | some (.sequence length) => length

@[simp] theorem size_form (c : Condition) : c.form.size = c.scalars.length := by
  match h : c.value with
  | none => simp [Form.size, form, scalars, h]
  | some (.scalar s) => simp [Form.size, form, scalars, h, Value.form, Value.scalars]
  | some (.sequence items) => simp [Form.size, form, scalars, h, Value.form, Value.scalars]

theorem value_eq_of_form {c d : Condition} (form : c.form = d.form)
    (scalars : c.scalars = d.scalars) : c.value = d.value := by
  have value : c.value.map Value.form = d.value.map Value.form := congrArg Form.value form
  simp only [Condition.scalars] at scalars
  cases hc : c.value with
  | none =>
      cases hd : d.value with
      | none => rfl
      | some w => simp [hc, hd] at value
  | some v =>
      cases hd : d.value with
      | none => simp [hc, hd] at value
      | some w =>
          cases v with
          | scalar s =>
              cases w with
              | scalar t => simp_all [Value.scalars]
              | sequence others => simp [hc, hd, Value.form] at value
          | sequence items =>
              cases w with
              | scalar t => simp [hc, hd, Value.form] at value
              | sequence others => simp_all [Value.scalars]

/-- A condition is its form and its scalars. -/
theorem eq_of_form {c d : Condition} (form : c.form = d.form) (scalars : c.scalars = d.scalars) :
    c = d := by
  have column : c.column = d.column := congrArg Form.column form
  have operator : c.operator = d.operator := congrArg Form.operator form
  have value := value_eq_of_form form scalars
  cases c
  cases d
  simp_all

/-- The forms are the same and the scalars agree as values. -/
def ValueEq (c d : Condition) : Prop := c.form = d.form ∧ Scalar.AllEq c.scalars d.scalars

/-! ## Common operators -/

/-- Operators with one scalar. -/
def comparisons : List String := ["=", "!=", ">", ">=", "<", "<=", "LIKE", "ILIKE"]

/-- Operators without a value. -/
def nullTests : List String := ["IS NULL", "IS NOT NULL"]

/-- Operators with a list in parentheses. -/
def memberships : List String := ["IN", "NOT IN"]

/-- Operators with two scalars joined by AND. -/
def ranges : List String := ["BETWEEN", "NOT BETWEEN"]

theorem comparisons_disjoint :
    ∀ operator ∈ comparisons,
      operator ∉ nullTests ∧ operator ∉ memberships ∧ operator ∉ ranges := by
  decide

theorem memberships_disjoint : ∀ operator ∈ memberships, operator ∉ nullTests := by decide

theorem ranges_disjoint :
    ∀ operator ∈ ranges, operator ∉ nullTests ∧ operator ∉ memberships := by
  decide

/-- The constructor sets the operator itself. -/
def Call.IsCommon : Call → Prop
  | .make .. | .unary .. | .binary .. => False
  | _ => True

/-- A constructor that sets the operator itself makes the condition. -/
def IsCommon (c : Condition) : Prop := ∃ call : Call, call.IsCommon ∧ call.perform = .ok c

/-- The operator is a common one and the value is what the operator takes. -/
inductive Conforms (c : Condition) : Prop where
  | comparison (operator : c.operator ∈ comparisons) {s : Scalar}
      (value : c.value = some (.scalar s))
  | nullTest (operator : c.operator ∈ nullTests) (value : c.value = none)
  | membership (operator : c.operator ∈ memberships) {items : List Scalar}
      (value : c.value = some (.sequence items))
  | range (operator : c.operator ∈ ranges) {low high : Scalar}
      (value : c.value = some (.sequence [low, high]))

theorem IsCommon.conforms {c : Condition} (h : c.IsCommon) : c.Conforms := by
  obtain ⟨call, isCommon, made⟩ := h
  rw [Call.perform_eq, Draft.check_eq_ok_iff] at made
  have operator : c.operator = call.draft.operator := congrArg Draft.operator made
  have value : c.value = call.draft.value := congrArg Draft.value made
  cases call with
  | make | unary | binary => exact isCommon.elim
  | eq | ne | gt | gte | lt | lte | like | ilike =>
      refine .comparison ?_ value
      simp [operator, Call.draft, comparisons]
  | isNull | isNotNull =>
      refine .nullTest ?_ value
      simp [operator, Call.draft, nullTests]
  | inList | notIn =>
      refine .membership ?_ value
      simp [operator, Call.draft, memberships]
  | between | notBetween =>
      refine .range ?_ value
      simp [operator, Call.draft, ranges]

/-! ## Reading -/

/-- Reads an operator of up to three words. -/
def readOperator : List String → Option (String × List String)
  | "IS" :: "NOT" :: word :: rest => some ("IS NOT " ++ word, rest)
  | "IS" :: word :: rest => some ("IS " ++ word, rest)
  | "NOT" :: word :: rest => some ("NOT " ++ word, rest)
  | word :: rest => some (word, rest)
  | [] => none

/-- Reads the items of a list and counts them: the last is the first that no comma follows. -/
def readItems : List String → Option (Nat × List String)
  | [] => none
  | word :: rest =>
      if word.toList.getLast? = some ',' then (readItems rest).map fun (n, rest) => (n + 1, rest)
      else some (1, rest)

/-- Reads the kind of value that goes with an operator. -/
def readValue (operator : String) (ws : List String) :
    Option (Option Value.Form × List String) :=
  if operator ∈ nullTests then some (none, ws)
  else if operator ∈ memberships then
    (readItems ws).map fun (n, rest) => (some (.sequence n), rest)
  else if operator ∈ ranges then some (some (.sequence 2), ws.drop 3)
  else some (some .scalar, ws.drop 1)

/-- Reads one condition and leaves the words behind it. -/
def Form.read : List String → Option (Form × List String)
  | [] => none
  | column :: ws => do
      let (operator, ws) ← readOperator ws
      let (value, rest) ← readValue operator ws
      some (⟨column, operator, value⟩, rest)

theorem readItems_words {p : String} (clear : ' ' ∉ p.toList) {items : List Scalar}
    (some : items ≠ []) (k : Nat) (rest : List String) :
    readItems (words (p ++ ((separated ", " (items.map ([.hole ·]))).fill Rendering.numbered k ++
        ")")) ++ rest) = .some (items.length, rest) := by
  induction items generalizing p k with
  | nil => exact absurd rfl some
  | cons s items ih =>
      have mark := notMem_append clear (Rendering.clear_numbered (k + 1) s)
      cases items with
      | nil =>
          have last : words (p ++ (Rendering.numbered (k + 1) s ++ ")")) =
              [p ++ Rendering.numbered (k + 1) s ++ ")"] := by
            rw [← String.append_assoc]
            exact words_of_clear (notMem_append mark (by decide))
          simp only [List.map_cons, List.map_nil, separated_singleton, fill_hole, fill_nil,
            String.append_empty, last, List.singleton_append, readItems]
          rw [if_neg (by simp)]
          rfl
      | cons t items =>
          have others := ih (p := "") (by decide) (by simp) (k + 1)
          rw [String.empty_append] at others
          have comma : ", " = "," ++ " " := rfl
          have first (text : String) :
              words (p ++ (Rendering.numbered (k + 1) s ++ (", " ++ text))) =
                (p ++ Rendering.numbered (k + 1) s ++ ",") :: words text := by
            have blank := words_blank (p ++ Rendering.numbered (k + 1) s ++ ",") text
            rw [words_of_clear (notMem_append mark (by decide))] at blank
            rw [← List.singleton_append, ← blank, comma]
            simp only [String.append_assoc]
          simp only [List.map_cons, separated_cons, List.singleton_append, fill_hole, fill_text,
            String.append_assoc] at others ⊢
          rw [first, List.cons_append, readItems, if_pos (by simp), others]
          rfl

/-! ## Words of conditions -/

/-- A common operator is written as it is and read as a whole. -/
theorem readOperator_words {operator : String}
    (common : operator ∈ comparisons ++ nullTests ++ memberships ++ ranges) (rest : List String) :
    Text.upper operator = operator ∧
      readOperator (words operator ++ rest) = some (operator, rest) := by
  simp only [comparisons, nullTests, memberships, ranges, List.cons_append, List.nil_append,
    List.mem_cons, List.not_mem_nil, or_false] at common
  rcases common with rfl | rfl | rfl | rfl | rfl | rfl | rfl | rfl | rfl | rfl | rfl | rfl | rfl |
    rfl
  all_goals exact ⟨by decide +kernel, rfl⟩

theorem isListOperator_of_mem {c : Condition} (h : c.operator ∈ memberships ++ ranges) :
    c.isListOperator = true ↔ c.operator ∈ memberships := by
  simp only [isListOperator]
  revert h
  generalize c.operator = operator
  revert operator
  decide

/-- The words of the value, if there is one, with numbers on from the one before the first. -/
def valueWords (c : Condition) (k : Nat) : List String :=
  c.value.elim [] fun v => words ((v.layout c.isListOperator).fill Rendering.numbered k)

namespace Conforms

variable {c : Condition}

theorem operator_common (h : c.Conforms) :
    c.operator ∈ comparisons ++ nullTests ++ memberships ++ ranges := by
  simp only [List.mem_append]
  cases h with
  | comparison operator => exact .inl (.inl (.inl operator))
  | nullTest operator => exact .inl (.inl (.inr operator))
  | membership operator => exact .inl (.inr operator)
  | range operator => exact .inr operator

theorem words_fill (h : c.Conforms) (clear : ' ' ∉ c.column.toList) (k : Nat) :
    words (c.layout.fill Rendering.numbered k) =
      c.column :: (words c.operator ++ valueWords c k) := by
  have written := (readOperator_words h.operator_common []).1
  have column := words_of_clear clear
  cases value : c.value with
  | none =>
      have text : c.layout.fill Rendering.numbered k = c.column ++ " " ++ c.operator := by
        simp only [layout, value, written, fill_text, fill_nil, String.append_empty,
          String.append_assoc]
      rw [text, words_blank, column, valueWords, value, Option.elim_none, List.append_nil,
        List.singleton_append]
  | some v =>
      have text : c.layout.fill Rendering.numbered k = c.column ++ " " ++ (c.operator ++ " " ++
          (v.layout c.isListOperator).fill Rendering.numbered k) := by
        simp only [layout, value, written, fill_text, String.append_assoc]
      rw [text, words_blank, words_blank, column, valueWords, value, Option.elim_some,
        List.singleton_append]

theorem readValue_words (h : c.Conforms) (k : Nat) (rest : List String) :
    readValue c.operator (valueWords c k ++ rest) = some (c.value.map Value.form, rest) := by
  cases h with
  | @comparison operator s value =>
      have other := comparisons_disjoint _ operator
      have mark : valueWords c k = [Rendering.numbered (k + 1) s] := by
        simp only [valueWords, value, Option.elim_some, Value.layout, fill_hole, fill_nil,
          String.append_empty]
        exact words_of_clear (Rendering.clear_numbered _ s)
      rw [readValue, if_neg other.1, if_neg other.2.1, if_neg other.2.2, mark, value]
      rfl
  | nullTest operator value =>
      rw [readValue, if_pos operator, valueWords, value]
      rfl
  | @membership operator items value =>
      have other := memberships_disjoint _ operator
      have list : c.isListOperator = true :=
        (isListOperator_of_mem (List.mem_append_left _ operator)).mpr operator
      have text : valueWords c k = words ("(" ++
          ((separated ", " (items.map ([.hole ·]))).fill Rendering.numbered k ++ ")")) := by
        simp only [valueWords, value, Option.elim_some, Value.layout, list, if_true, fill_text,
          fill_append, fill_nil, String.append_empty]
      have read := readItems_words (p := "(") (by decide) (items_ne_nil value) k rest
      rw [readValue, if_neg other, if_pos operator, text, read, value]
      rfl
  | @range operator low high value =>
      have other := ranges_disjoint _ operator
      have list : c.isListOperator = false := by
        rw [← Bool.not_eq_true, isListOperator_of_mem (List.mem_append_right _ operator)]
        exact other.2
      have marks : valueWords c k =
          [Rendering.numbered (k + 1) low, "AND", Rendering.numbered (k + 2) high] := by
        have joined := words_and (Rendering.numbered (k + 1) low) (Rendering.numbered (k + 2) high)
        rw [words_of_clear (Rendering.clear_numbered _ low),
          words_of_clear (Rendering.clear_numbered _ high), String.append_assoc] at joined
        simp only [valueWords, value, Option.elim_some, Value.layout, list, Bool.false_eq_true,
          if_false, List.map_cons, List.map_nil, separated_cons, separated_singleton,
          List.singleton_append, fill_hole, fill_text, fill_nil, String.append_empty]
        exact joined
      rw [readValue, if_neg other.1, if_neg other.2, if_pos operator, marks, value]
      rfl

end Conforms

/-- A common constructor makes the condition, and its column is one word. -/
structure Readable (c : Condition) : Prop where
  common : c.IsCommon
  column_clear : ' ' ∉ c.column.toList

/-- A condition is read as its form, and what follows it is left. -/
theorem Form.read_words {c : Condition} (h : c.Readable) (k : Nat) (rest : List String) :
    Form.read (words (c.layout.fill Rendering.numbered k) ++ rest) = some (c.form, rest) := by
  have conforms := h.common.conforms
  have operator := (readOperator_words conforms.operator_common (valueWords c k ++ rest)).2
  have value := conforms.readValue_words k rest
  rw [conforms.words_fill h.column_clear, List.cons_append, List.append_assoc, Form.read, operator]
  simp only [Option.bind_eq_bind, Option.bind_some, value]
  rfl

end Condition

/-! ## Groups -/

namespace Group

open Condition

/-- The conditions without the parentheses around them. -/
def inside (group : Group) (k : Nat) : String :=
  " AND ".intercalate (fillAll Rendering.numbered k (group.map Condition.layout))

theorem render_start (group : Group) :
    group.render (.start .placeholder) =
      ("(" ++ group.inside 0 ++ ")", (Rendering.start .placeholder).bind group.scalars) := by
  rw [render_eq, Layout.write, holes_layout]
  simp only [layout, fill_text, fill_append, fill_separated, fill_nil, String.append_empty,
    String.append_assoc]
  rfl

/-- What stands behind a condition: an AND before the conditions that are left. -/
def wordsBehind (k : Nat) : Group → List String
  | [] => []
  | c :: group => "AND" :: words (inside (c :: group) k)

theorem words_inside (c : Condition) (group : Group) (k : Nat) :
    words (inside (c :: group) k) = words (c.layout.fill Rendering.numbered k) ++
      wordsBehind (k + c.scalars.length) group := by
  cases group with
  | nil => simp [inside, wordsBehind]
  | cons d group =>
      rw [wordsBehind, ← words_and]
      simp [inside, String.intercalate_cons_cons]

variable {g h : Group}

/-- The first condition is read off the words, and it says which number the next one begins
with. -/
theorem forms_eq_of_wordsBehind (hg : ∀ c ∈ g, c.Readable) (hh : ∀ c ∈ h, c.Readable) {k : Nat}
    (same : wordsBehind k g = wordsBehind k h) : g.map form = h.map form := by
  induction g generalizing h k with
  | nil =>
      cases h with
      | nil => rfl
      | cons d h => cases same
  | cons c g ih =>
      cases h with
      | nil => cases same
      | cons d h =>
          injection same with _ same
          rw [words_inside, words_inside] at same
          have read := congrArg Form.read same
          rw [Form.read_words (hg c List.mem_cons_self), Form.read_words (hh d List.mem_cons_self),
            Option.some_inj, Prod.mk.injEq] at read
          obtain ⟨first, behind⟩ := read
          have size : c.scalars.length = d.scalars.length := by
            rw [← size_form, ← size_form, first]
          rw [size] at behind
          have others := ih (fun e he => hg e (List.mem_cons_of_mem c he))
            (fun e he => hh e (List.mem_cons_of_mem d he)) behind
          rw [List.map_cons, List.map_cons, first, others]

theorem eq_of_forms (forms : g.map form = h.map form) (scalars : g.scalars = h.scalars) :
    g = h := by
  induction g generalizing h with
  | nil => exact (List.map_eq_nil_iff.mp forms.symm).symm
  | cons c g ih =>
      cases h with
      | nil => cases forms
      | cons d h =>
          injection forms with first others
          have size : c.scalars.length = d.scalars.length := by
            rw [← size_form, ← size_form, first]
          obtain ⟨own, rest⟩ := List.append_inj scalars size
          rw [eq_of_form first own, ih others rest]

theorem valueEq_of_forms (forms : g.map form = h.map form)
    (scalars : Scalar.AllEq g.scalars h.scalars) : List.Forall₂ Condition.ValueEq g h := by
  induction g generalizing h with
  | nil =>
      rw [List.map_eq_nil_iff.mp forms.symm]
      exact .nil
  | cons c g ih =>
      cases h with
      | nil => cases forms
      | cons d h =>
          injection forms with first others
          have size : c.scalars.length = d.scalars.length := by
            rw [← size_form, ← size_form, first]
          obtain ⟨own, rest⟩ := Scalar.allEq_append size scalars
          exact .cons ⟨first, own⟩ (ih others rest)

/-- Groups with the same words have the same forms, and only the empty group has no words. -/
theorem forms_eq_of_render (hg : ∀ c ∈ g, c.Readable) (hh : ∀ c ∈ h, c.Readable)
    (text : (g.render (.start .placeholder)).1 = (h.render (.start .placeholder)).1) :
    g.map form = h.map form := by
  have empty : (render [] (.start .placeholder)).1 = "()" := rfl
  cases g with
  | nil =>
      cases h with
      | nil => rfl
      | cons d h => exact absurd (text.symm.trans empty) (render_ne_parentheses (by simp) _)
  | cons c g =>
      cases h with
      | nil => exact absurd (text.trans empty) (render_ne_parentheses (by simp) _)
      | cons d h =>
          rw [render_start, render_start, String.append_left_inj, String.append_right_inj] at text
          have behind : wordsBehind 0 (c :: g) = wordsBehind 0 (d :: h) := by
            rw [wordsBehind, wordsBehind, text]
          exact forms_eq_of_wordsBehind hg hh behind

/-- Two groups of common conditions without blanks in their columns that are rendered to the same
text agree condition by condition in columns, operators and numbers of scalars. If they have the
same arguments too, they are the same group; if the arguments agree as values, so do the
conditions. -/
theorem render_injective (hg : ∀ c ∈ g, c.Readable) (hh : ∀ c ∈ h, c.Readable)
    (text : (g.render (.start .placeholder)).1 = (h.render (.start .placeholder)).1) :
    g.map form = h.map form ∧
      ((g.render (.start .placeholder)).2.arguments = (h.render (.start .placeholder)).2.arguments →
        g = h) ∧
      ((g.render (.start .placeholder)).2.arguments.ValueEq
          (h.render (.start .placeholder)).2.arguments →
        List.Forall₂ Condition.ValueEq g h) := by
  have arguments (group : Group) :
      (group.render (.start .placeholder)).2.arguments.toList = group.scalars := by
    rw [render_start]
    exact (Rendering.toList_bind group.scalars (.start .placeholder)).trans (List.nil_append _)
  have forms := forms_eq_of_render hg hh text
  refine ⟨forms, ?_, ?_⟩
  · intro same
    apply eq_of_forms forms
    rw [← arguments, ← arguments, same]
  · intro same
    apply valueEq_of_forms forms
    rw [← arguments, ← arguments]
    exact same

/-- A range from a zero of either sign, under columns that read like keywords. -/
def fromZero (negative : Bool) : Group :=
  [⟨"AND", "BETWEEN", some (.sequence [.float ⟨negative, 0, by decide⟩, .int 9]),
      by decide, by decide, by cases negative <;> decide⟩,
    ⟨"NOT", "IN", some (.sequence [.text "("]), by decide, by decide, by decide⟩]

theorem readable_fromZero (negative : Bool) : ∀ c ∈ fromZero negative, c.Readable := by
  have column : ' ' ∉ "AND".toList := by decide
  intro c hc
  rcases List.mem_cons.mp hc with rfl | hc
  · refine ⟨⟨.between "AND" (.float ⟨negative, 0, by decide⟩) (.int 9), trivial, ?_⟩, column⟩
    exact (Call.perform_eq _).trans (Draft.check_eq_ok_iff.mpr rfl)
  · obtain rfl := List.mem_singleton.mp hc
    refine ⟨⟨.inList "NOT" [.text "("], trivial, ?_⟩, by decide⟩
    exact (Call.perform_eq _).trans (Draft.check_eq_ok_iff.mpr rfl)

/-- The sign of a zero is in no text, and it is the only difference between the two groups. -/
theorem render_injective_fromZero :
    ((fromZero false).render (.start .placeholder)).1 =
        ((fromZero true).render (.start .placeholder)).1 ∧
      List.Forall₂ Condition.ValueEq (fromZero false) (fromZero true) ∧
      ((fromZero false).render (.start .placeholder)).2.arguments ≠
        ((fromZero true).render (.start .placeholder)).2.arguments := by
  have text : ((fromZero false).render (.start .placeholder)).1 =
      ((fromZero true).render (.start .placeholder)).1 := by decide +kernel
  have read := render_injective (readable_fromZero false) (readable_fromZero true) text
  exact ⟨text, read.2.2 (by decide +kernel), by decide +kernel⟩

end Group

end SqlAssembly
