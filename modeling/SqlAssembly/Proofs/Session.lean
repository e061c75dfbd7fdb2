import SqlAssembly.Session

/-!
# Sessions turn by turn

What each action does to the queries of a session: building keeps them all and gives what the
query gives by itself (`Session.fst_build`), configuring changes the current one, loading replaces
it. The turns of a run say of each action which query it was asked of and how it was answered.
-/

namespace SqlAssembly

namespace Session

variable (s : Session)

/-! ## Building -/

/-- A session builds what its query builds, whatever it has logged. -/
theorem fst_build (kind : Statement.Kind) : (s.build kind).1 = s.query.build kind := by
  unfold build
  simp only
  split <;> rfl

@[simp] theorem query_deliver (received : List Attribute) (sink : Sink) :
    (s.deliver received sink).query = s.query := by
  cases sink <;> rfl

@[simp] theorem saved_deliver (received : List Attribute) (sink : Sink) :
    (s.deliver received sink).saved = s.saved := by
  cases sink <;> rfl

@[simp] theorem query_build (kind : Statement.Kind) : (s.build kind).2.query = s.query := by
  unfold build
  simp only
  split
  · rfl
  · exact query_deliver _ _ _

@[simp] theorem saved_build (kind : Statement.Kind) : (s.build kind).2.saved = s.saved := by
  unfold build
  simp only
  split
  · rfl
  · exact saved_deliver _ _ _

/-! ## Configuring and loading -/

theorem snd_perform_configure (step : Step) :
    (s.perform (.configure step)).2 = { s with query := s.query.advance step } := by
  unfold perform Query.advance
  simp only
  cases s.query.step step <;> rfl

theorem fst_perform_configure (step : Step) :
    (s.perform (.configure step)).1 = .done ∨
      ∃ e, (s.perform (.configure step)).1 = .refused e := by
  unfold perform
  simp only
  cases s.query.step step with
  | ok next => exact .inl rfl
  | error e => exact .inr ⟨e, rfl⟩

/-- What was never saved is loaded as what is there. -/
theorem perform_load (name : String) :
    s.perform (.load name) = (.done, { s with query := (s.saved name).getD s.query }) := by
  unfold perform
  simp only
  cases s.saved name <;> rfl

end Session

/-! ## Turns -/

/-- One action of a run: the query that the session worked on, what was asked, and the answer. -/
structure Turn where
  query : Query
  action : Action
  response : Response

namespace Session

def turn (s : Session) (action : Action) : Turn := ⟨s.query, action, (s.perform action).1⟩

/-- The turns of a run in order. -/
def turns (s : Session) : List Action → List Turn
  | [] => []
  | action :: actions => s.turn action :: (s.perform action).2.turns actions

theorem run_cons (s : Session) (action : Action) (actions : List Action) :
    s.run (action :: actions) =
      ((s.perform action).1 :: ((s.perform action).2.run actions).1,
        ((s.perform action).2.run actions).2) := rfl

theorem run_concat (s : Session) (actions : List Action) (last : Action) :
    (s.run (actions ++ [last])).2 = ((s.run actions).2.perform last).2 := by
  induction actions generalizing s with
  | nil => rfl
  | cons action actions ih => exact ih (s.perform action).2

theorem turns_concat (s : Session) (actions : List Action) (last : Action) :
    s.turns (actions ++ [last]) = s.turns actions ++ [(s.run actions).2.turn last] := by
  induction actions generalizing s with
  | nil => rfl
  | cons action actions ih =>
      rw [List.cons_append, turns, turns, ih, List.cons_append, run_cons]

theorem map_action_turns (s : Session) (actions : List Action) :
    (s.turns actions).map Turn.action = actions := by
  induction actions generalizing s with
  | nil => rfl
  | cons action actions ih => rw [turns, List.map_cons, ih, turn]

theorem map_response_turns (s : Session) (actions : List Action) :
    (s.turns actions).map Turn.response = (s.run actions).1 := by
  induction actions generalizing s with
  | nil => rfl
  | cons action actions ih => rw [turns, List.map_cons, ih, run_cons, turn]

theorem exists_of_mem_turns {s : Session} {actions : List Action} {t : Turn}
    (mem : t ∈ s.turns actions) : ∃ (before : Session) (action : Action), t = before.turn action := by
  induction actions generalizing s with
  | nil => cases mem
  | cons action actions ih =>
      rcases List.mem_cons.mp mem with rfl | others
      · exact ⟨s, action, rfl⟩
      · exact ih others

/-- A turn is answered with a statement if and only if it asked for one, and then with the one
that its query builds. -/
theorem response_eq_built_iff (s : Session) (action : Action) (statement : Statement) :
    (s.turn action).response = .built statement ↔
      ∃ kind, action = .build kind ∧ statement = s.query.build kind := by
  cases action with
  | build kind =>
      have answer : (s.turn (.build kind)).response = .built (s.query.build kind) :=
        congrArg Response.built (s.fst_build kind)
      rw [answer]
      constructor
      · rintro ⟨⟩
        exact ⟨kind, rfl, rfl⟩
      · rintro ⟨other, ⟨⟩, rfl⟩
        rfl
  | configure step =>
      have answer := s.fst_perform_configure step
      rcases answer with done | ⟨e, refused⟩
      · simp [turn, done]
      · simp [turn, refused]
  | load name => simp [turn, perform_load]
  | _ => simp [turn, perform]

end Session

end SqlAssembly
