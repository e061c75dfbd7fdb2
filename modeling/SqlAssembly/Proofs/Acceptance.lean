import SqlAssembly.Condition

/-!
# Acceptance

Which conditions and assignments can be made. All constructors of conditions come down to one
check (`Condition.Call.perform_eq`). It accepts a draft if and only if the draft is admissible
(`Condition.Draft.check_ok_iff`), and otherwise names the first fault: that of the column before
that of the operator, and both before that of the value (`Condition.Draft.check_eq_error_iff`).
Assignments are checked in the same way.
-/

namespace SqlAssembly

open Text

namespace Condition

/-! ## Drafts -/

/-- What a condition is made from. -/
structure Draft where
  column : String
  operator : String
  value : Option Value

def draft (c : Condition) : Draft := ⟨c.column, c.operator, c.value⟩

namespace Draft

def check (d : Draft) : Except BuildError Condition := make d.column d.operator d.value

/-- Column and operator are not blank, and the value, if there is one, is no empty sequence and
holds no double that is not finite. -/
def Admissible (d : Draft) : Prop :=
  isBlank d.column = false ∧ isBlank d.operator = false ∧ ∀ v, d.value = some v → v.Sound

/-- The error belongs to the first fault of the draft. -/
inductive Refusal (d : Draft) : BuildError → Prop where
  | column (blank : isBlank d.column = true) : Refusal d (.invalidArgument .emptyColumn)
  | operator (visible : isBlank d.column = false) (blank : isBlank d.operator = true) :
      Refusal d (.unsupportedOperator d.operator)
  | value (column_visible : isBlank d.column = false)
      (operator_visible : isBlank d.operator = false) {v : Value} {cause : ArgumentFault}
      (given : d.value = some v) (unsound : ¬ v.Sound)
      (fault : v.fault? d.column d.operator = some cause) :
      Refusal d (.invalidArgument cause)

variable {d : Draft}

/-- A draft is accepted as the condition that has its parts, if there is one. -/
theorem check_eq_ok_iff {c : Condition} : d.check = .ok c ↔ c.draft = d := by
  obtain ⟨column, operator, value⟩ := d
  obtain ⟨column', operator', value', columnVisible, operatorVisible, sound⟩ := c
  simp only [check, draft, Draft.mk.injEq]
  constructor
  · intro accepted
    unfold make at accepted
    split at accepted
    · cases accepted
    · split at accepted
      · cases accepted
      · split at accepted
        · cases accepted
        · cases accepted
          exact ⟨rfl, rfl, rfl⟩
  · rintro ⟨rfl, rfl, rfl⟩
    have noFault : value'.bind (Value.fault? column' operator') = none := by
      cases value' with
      | none => rfl
      | some v => exact (Value.fault?_eq_none_iff column' operator' v).mpr (sound v rfl)
    unfold make
    split
    · simp_all
    · split
      · simp_all
      · split
        · simp_all
        · rfl

theorem admissible_draft (c : Condition) : c.draft.Admissible :=
  ⟨c.column_visible, c.operator_visible, c.value_sound⟩

theorem check_ok_iff : (∃ c, d.check = .ok c) ↔ d.Admissible := by
  constructor
  · rintro ⟨c, accepted⟩
    rw [← check_eq_ok_iff.mp accepted]
    exact admissible_draft c
  · rintro ⟨column, operator, sound⟩
    exact ⟨⟨d.column, d.operator, d.value, column, operator, sound⟩, check_eq_ok_iff.mpr rfl⟩

theorem refusal_of_check_error {e : BuildError} (refused : d.check = .error e) : d.Refusal e := by
  unfold check make at refused
  split at refused
  · rename_i blank
    cases refused
    exact .column blank
  · rename_i column
    split at refused
    · rename_i blank
      cases refused
      exact .operator column blank
    · rename_i operator
      split at refused
      · rename_i cause fault
        cases refused
        obtain ⟨v, given, fault⟩ := Option.bind_eq_some_iff.mp fault
        have unsound : ¬ v.Sound := by
          rw [← Value.fault?_eq_none_iff d.column d.operator, fault]
          simp
        exact .value column operator given unsound fault
      · cases refused

theorem Refusal.not_admissible {e : BuildError} (h : d.Refusal e) : ¬ d.Admissible := by
  rintro ⟨column, operator, sound⟩
  cases h with
  | column blank => simp [column] at blank
  | operator _ blank => simp [operator] at blank
  | value _ _ given unsound _ => exact unsound (sound _ given)

theorem Refusal.unique {e e' : BuildError} (h : d.Refusal e) (h' : d.Refusal e') : e = e' := by
  cases h <;> cases h' <;> simp_all

/-- A draft is refused with the error of its first fault, if it has one. -/
theorem check_eq_error_iff {e : BuildError} : d.check = .error e ↔ d.Refusal e := by
  constructor
  · exact refusal_of_check_error
  · intro refusal
    cases outcome : d.check with
    | ok c => exact absurd (check_ok_iff.mp ⟨c, outcome⟩) refusal.not_admissible
    | error e' => rw [(refusal_of_check_error outcome).unique refusal]

end Draft

/-! ## Constructors -/

/-- A call of one of the constructors of conditions. -/
inductive Call where
  | make (column operator : String) (value : Option Value)
  | unary (column operator : String)
  | binary (column operator : String) (value : Value)
  | eq (column : String) (s : Scalar)
  | ne (column : String) (s : Scalar)
  | gt (column : String) (s : Scalar)
  | gte (column : String) (s : Scalar)
  | lt (column : String) (s : Scalar)
  | lte (column : String) (s : Scalar)
  | like (column : String) (pattern : Scalar)
  | ilike (column : String) (pattern : Scalar)
  | isNull (column : String)
  | isNotNull (column : String)
  | inList (column : String) (items : List Scalar)
  | notIn (column : String) (items : List Scalar)
  | between (column : String) (low high : Scalar)
  | notBetween (column : String) (low high : Scalar)

namespace Call

def perform : Call → Except BuildError Condition
  | .make column operator value => Condition.make column operator value
  | .unary column operator => Condition.unary column operator
  | .binary column operator value => Condition.binary column operator value
  | .eq column s => Condition.eq column s
  | .ne column s => Condition.ne column s
  | .gt column s => Condition.gt column s
  | .gte column s => Condition.gte column s
  | .lt column s => Condition.lt column s
  | .lte column s => Condition.lte column s
  | .like column pattern => Condition.like column pattern
  | .ilike column pattern => Condition.ilike column pattern
  | .isNull column => Condition.isNull column
  | .isNotNull column => Condition.isNotNull column
  | .inList column items => Condition.inList column items
  | .notIn column items => Condition.notIn column items
  | .between column low high => Condition.between column low high
  | .notBetween column low high => Condition.notBetween column low high

def draft : Call → Draft
  | .make column operator value => ⟨column, operator, value⟩
  | .unary column operator => ⟨column, operator, none⟩
  | .binary column operator value => ⟨column, operator, some value⟩
  | .eq column s => ⟨column, "=", some (.scalar s)⟩
  | .ne column s => ⟨column, "!=", some (.scalar s)⟩
  | .gt column s => ⟨column, ">", some (.scalar s)⟩
  | .gte column s => ⟨column, ">=", some (.scalar s)⟩
  | .lt column s => ⟨column, "<", some (.scalar s)⟩
  | .lte column s => ⟨column, "<=", some (.scalar s)⟩
  | .like column pattern => ⟨column, "LIKE", some (.scalar pattern)⟩
  | .ilike column pattern => ⟨column, "ILIKE", some (.scalar pattern)⟩
  | .isNull column => ⟨column, "IS NULL", none⟩
  | .isNotNull column => ⟨column, "IS NOT NULL", none⟩
  | .inList column items => ⟨column, "IN", some (.sequence items)⟩
  | .notIn column items => ⟨column, "NOT IN", some (.sequence items)⟩
  | .between column low high => ⟨column, "BETWEEN", some (.sequence [low, high])⟩
  | .notBetween column low high => ⟨column, "NOT BETWEEN", some (.sequence [low, high])⟩

/-- No constructor goes past the check. -/
theorem perform_eq (call : Call) : call.perform = call.draft.check := by
  cases call <;> rfl

end Call

end Condition

/-! ## Assignments -/

namespace Assignment

/-- The error belongs to the first fault of an assignment's parts. -/
inductive Refusal (column : String) (s : Scalar) : BuildError → Prop where
  | column (blank : isBlank column = true) : Refusal column s (.invalidArgument .emptyColumn)
  | value (visible : isBlank column = false) (infinite : ¬ s.IsFinite) {cause : ArgumentFault}
      (fault : s.fault? column = some cause) : Refusal column s (.invalidArgument cause)

variable {column : String} {s : Scalar}

theorem make_eq_ok_iff {a : Assignment} :
    make column s = .ok a ↔ a.column = column ∧ a.value = s := by
  obtain ⟨column', s', visible, finite⟩ := a
  simp only
  constructor
  · intro accepted
    unfold make at accepted
    split at accepted
    · cases accepted
    · split at accepted
      · cases accepted
      · cases accepted
        exact ⟨rfl, rfl⟩
  · rintro ⟨rfl, rfl⟩
    have noFault := (Scalar.fault?_eq_none_iff column' s').mpr finite
    unfold make
    split
    · simp_all
    · split
      · simp_all
      · rfl

theorem make_ok_iff :
    (∃ a, make column s = .ok a) ↔ isBlank column = false ∧ s.IsFinite := by
  constructor
  · rintro ⟨a, accepted⟩
    obtain ⟨rfl, rfl⟩ := make_eq_ok_iff.mp accepted
    exact ⟨a.column_visible, a.value_finite⟩
  · rintro ⟨visible, finite⟩
    exact ⟨⟨column, s, visible, finite⟩, make_eq_ok_iff.mpr ⟨rfl, rfl⟩⟩

theorem refusal_of_make_error {e : BuildError} (refused : make column s = .error e) :
    Refusal column s e := by
  unfold make at refused
  split at refused
  · rename_i blank
    cases refused
    exact .column blank
  · rename_i visible
    split at refused
    · rename_i cause fault
      cases refused
      have infinite : ¬ s.IsFinite := by
        rw [← Scalar.fault?_eq_none_iff column, fault]
        simp
      exact .value visible infinite fault
    · cases refused

theorem make_eq_error_iff {e : BuildError} : make column s = .error e ↔ Refusal column s e := by
  constructor
  · exact refusal_of_make_error
  · intro refusal
    cases outcome : make column s with
    | ok a =>
        obtain ⟨visible, finite⟩ := make_ok_iff.mp ⟨a, outcome⟩
        cases refusal <;> simp_all
    | error e' =>
        have refusal' := refusal_of_make_error outcome
        cases refusal <;> cases refusal' <;> simp_all

end Assignment

end SqlAssembly
