import Mathlib.Algebra.GroupWithZero.Nat
import SqlAssembly.Proofs.ListOperators
import SqlAssembly.Proofs.Operands
import SqlAssembly.Proofs.UpperCase

/-!
# List operators as they are printed

Whether a sequence is written as a list is decided by the operator as it was given, compared
without the case of ASCII letters; a server reads the operator in full upper case. The two agree
for every operator but one that spells `IN` or `NOT IN` with a dotless i, whose upper case is the
capital I (`Condition.isListOperator_iff`). Such an operator is printed as a list operator and
followed by scalars joined with AND (`Condition.render_as_printed_iff`).
-/

namespace SqlAssembly

open Text

theorem length_intercalate (sep : String) (t : String) (ts : List String) :
    (sep.intercalate (t :: ts)).length =
      ((t :: ts).map String.length).sum + sep.length * ts.length := by
  induction ts generalizing t with
  | nil => simp
  | cons u ts ih =>
      rw [String.intercalate_cons_cons, String.length_append, String.length_append, ih u]
      simp only [List.map_cons, List.sum_cons, List.length_cons, Nat.mul_succ]
      omega

namespace Condition

/-- The operator as it stands in a statement, without the blanks around it. -/
def printedOperator (c : Condition) : String := trim (upper c.operator)

def PrintsListOperator (c : Condition) : Prop :=
  c.printedOperator = "IN" ∨ c.printedOperator = "NOT IN"

instance (c : Condition) : Decidable c.PrintsListOperator := inferInstanceAs (Decidable (_ ∨ _))

theorem printedOperator_eq_iff (c : Condition) (word : String) :
    c.printedOperator = word ↔ upperChars (trimChars c.operator.toList) = word.toList := by
  rw [← String.toList_inj, printedOperator, toList_trim, toList_upper, trimChars_upperChars]

/-- A list operator is one that is printed as such and has no dotless i. -/
theorem isListOperator_iff (c : Condition) :
    c.isListOperator = true ↔ c.PrintsListOperator ∧ 'ı' ∉ c.operator.toList := by
  have dotless : 'ı' ∈ trimChars c.operator.toList ↔ 'ı' ∈ c.operator.toList :=
    mem_trimChars_iff (by decide)
  have spelled (word : String) (letters : ∀ d ∈ word.toList, d ∈ operatorChars) :
      (trimChars c.operator.toList).map Char.toLower = word.toList.map Char.toLower ↔
        c.printedOperator = word ∧ 'ı' ∉ c.operator.toList := by
    rw [← upperChars_eq_iff letters, dotless, printedOperator_eq_iff]
  have one : "in".toList = "IN".toList.map Char.toLower := by decide
  have two : "not in".toList = "NOT IN".toList.map Char.toLower := by decide
  simp only [isListOperator, Bool.or_eq_true, decide_eq_true_eq]
  rw [one, two, spelled "IN" (by simp [operatorChars]), spelled "NOT IN" (by simp [operatorChars]),
    PrintsListOperator, or_and_right]

/-! ## Sequences -/

/-- Column, operator in upper case, and the rendered scalars joined by AND. -/
def joinedText (c : Condition) (items : List Scalar) (r : Rendering) : String :=
  c.column ++ " " ++ upper c.operator ++ " " ++
    " AND ".intercalate (Rendering.each (fun s r => r.scalar s) items r).1

theorem render_sequence_joined {c : Condition} (other : c.isListOperator = false)
    {items : List Scalar} (value : c.value = some (.sequence items)) (r : Rendering) :
    (c.render r).1 = c.joinedText items r := by
  simp only [render, value, Value.render, other, Bool.false_eq_true, if_false, joinedText]

/-- The two ways to write a sequence differ already in length. -/
theorem joinedText_ne_listText (c : Condition) {items : List Scalar} (some : items ≠ [])
    (r : Rendering) : c.joinedText items r ≠ c.listText (.sequence items) r := by
  intro same
  have length := congrArg String.length same
  obtain ⟨t, ts, texts⟩ : ∃ t ts, (Rendering.each (fun s r => r.scalar s) items r).1 = t :: ts := by
    apply List.exists_cons_of_ne_nil
    rw [ne_eq, Rendering.fst_each_eq_nil_iff]
    exact some
  have five : " AND ".length = 5 := rfl
  have two : ", ".length = 2 := rfl
  have open_ : " (".length = 2 := rfl
  have one : " ".length = 1 := rfl
  have close : ")".length = 1 := rfl
  simp only [joinedText, listText, Value.scalars, texts, String.length_append, length_intercalate,
    five, two, open_, one, close] at length
  omega

/-- A sequence is written as its printed operator says, in both modes and whatever was rendered
before, if and only if the operator is not a list operator with a dotless i. With one, its scalars
are joined by AND. -/
theorem render_as_printed_iff {c : Condition} {items : List Scalar}
    (value : c.value = some (.sequence items)) (r : Rendering) :
    ((c.render r).1 =
        (if c.PrintsListOperator then c.listText (.sequence items) r else c.joinedText items r) ↔
      ¬ (c.PrintsListOperator ∧ 'ı' ∈ c.operator.toList)) ∧
    (c.PrintsListOperator → 'ı' ∈ c.operator.toList → (c.render r).1 = c.joinedText items r) := by
  have some : items ≠ [] := (c.value_sound _ value).1
  have dotless (h : 'ı' ∈ c.operator.toList) : (c.render r).1 = c.joinedText items r := by
    refine render_sequence_joined ?_ value r
    rw [← Bool.not_eq_true, isListOperator_iff]
    exact fun list => list.2 h
  refine ⟨?_, fun _ => dotless⟩
  by_cases prints : c.PrintsListOperator
  · rw [if_pos prints]
    constructor
    · rintro same ⟨_, h⟩
      exact joinedText_ne_listText c some r ((dotless h).symm.trans same)
    · intro dotted
      have list := (isListOperator_iff c).mpr ⟨prints, fun h => dotted ⟨prints, h⟩⟩
      exact render_sequence list value r
  · rw [if_neg prints]
    have other : c.isListOperator = false := by
      rw [← Bool.not_eq_true, isListOperator_iff]
      exact fun list => prints list.1
    constructor
    · intro _ h
      exact prints h.1
    · intro _
      exact render_sequence_joined other value r

theorem sound_visits (v : Value) (given : some (.sequence [.int 1, .int 2]) = some v) :
    v.Sound := by
  cases given
  decide

def visits : Condition :=
  ⟨"visits", " Not ıN\n", some (.sequence [.int 1, .int 2]), by decide, by decide, sound_visits⟩

/-- With a dotless i the scalars stand without parentheses behind NOT IN. -/
theorem render_as_printed_visits :
    visits.value = some (.sequence [.int 1, .int 2]) ∧ visits.PrintsListOperator ∧
      (visits.render (.start .literal)).1 = "visits  NOT IN\n 1 AND 2" := by
  have prints : visits.PrintsListOperator := .inr (by decide +kernel)
  have text := (render_as_printed_iff (c := visits) rfl (.start .literal)).2 prints (by decide)
  exact ⟨rfl, prints, text.trans (by decide +kernel)⟩

/-- A sequence is accepted under an operator that is printed as IN and is not recognized. -/
theorem render_sequence_under_dotless_in :
    ∃ c, Condition.binary "id" "ın" (.sequence [.int 1, .int 2]) = .ok c ∧
      c.printedOperator = "IN" ∧ c.isListOperator = false ∧
      (c.render (.start .placeholder)).1 = "id IN $1 AND $2" ∧
      (c.render (.start .literal)).1 = "id IN 1 AND 2" ∧
      c.listText (.sequence [.int 1, .int 2]) (.start .placeholder) = "id IN ($1, $2)" := by
  refine ⟨⟨"id", "ın", some (.sequence [.int 1, .int 2]), by decide, by decide, by decide⟩, rfl,
    ?_, ?_, ?_, ?_, ?_⟩
  all_goals decide +kernel

end Condition

end SqlAssembly
