import SqlAssembly.Proofs.Session

/-!
# Redirected sinks

No step looks at a sink and no statement depends on one. Sinks may therefore be replaced wherever
a session gets them: the session goes through the same queries, sinks apart, and answers every
action alike (`Session.Redirected.run`).
-/

namespace SqlAssembly

variable (f : Option Sink → Option Sink)

def Config.redirect (config : Config) : Config := { config with sink := f config.sink }

def Query.redirect (q : Query) : Query := { q with config := q.config.redirect f }

def Action.redirect : Action → Action
  | .create config => .create (config.redirect f)
  | action => action

namespace Query

variable (q : Query)

theorem build_redirect (kind : Statement.Kind) : (q.redirect f).build kind = q.build kind := by
  cases kind <;> rfl

theorem step_redirect (s : Step) : (q.redirect f).step s = (q.step s).map (redirect f) := by
  cases s with
  | fromTable table =>
      simp only [step, fromTable]
      cases TableReference.make table <;> rfl
  | fromTableAs table aliasName =>
      simp only [step, fromTableAs]
      cases TableReference.makeAs table aliasName <;> rfl
  | fromNames names =>
      simp only [step, fromNames]
      cases TableReference.ofNames names <;> rfl
  | require group =>
      change Except.ok ((q.redirect f).require group) = .ok ((q.require group).redirect f)
      unfold require
      split <;> rfl
  | orElse group =>
      change Except.ok ((q.redirect f).orElse group) = .ok ((q.orElse group).redirect f)
      unfold orElse
      split <;> rfl
  | page page size =>
      change (q.redirect f).setPage page size = (q.setPage page size).map (redirect f)
      unfold setPage
      split
      · rfl
      · split
        · rfl
        · simp only
          split <;> rfl
  | _ => rfl

end Query

namespace Session

/-- The second session works on the queries of the first with their sinks replaced. -/
structure Redirected (s t : Session) : Prop where
  query : t.query = s.query.redirect f
  saved : ∀ name, t.saved name = (s.saved name).map (Query.redirect f)

namespace Redirected

variable {f} {s t : Session}

theorem start (q : Query) : Redirected f (start q) (start (q.redirect f)) :=
  ⟨rfl, fun _ => rfl⟩

theorem fst_build (h : Redirected f s t) (kind : Statement.Kind) :
    (t.build kind).1 = (s.build kind).1 := by
  rw [Session.fst_build, Session.fst_build, h.query, Query.build_redirect]

/-- Both sessions answer an action alike, and the second still has the queries of the first. -/
theorem perform (h : Redirected f s t) (action : Action) :
    (t.perform (action.redirect f)).1 = (s.perform action).1 ∧
      Redirected f (s.perform action).2 (t.perform (action.redirect f)).2 := by
  have build := h.fst_build
  obtain ⟨query, saved⟩ := h
  cases action with
  | create config => exact ⟨rfl, rfl, saved⟩
  | configure step =>
      simp only [Action.redirect, Session.perform, query, Query.step_redirect]
      cases s.query.step step with
      | ok next => exact ⟨rfl, rfl, saved⟩
      | error e => exact ⟨rfl, query, saved⟩
  | build kind =>
      refine ⟨congrArg Response.built (build kind), ?_, ?_⟩
      · change (t.build kind).2.query = (s.build kind).2.query.redirect f
        rw [query_build, query_build, query]
      · change ∀ name, (t.build kind).2.saved name =
          ((s.build kind).2.saved name).map (Query.redirect f)
        rw [saved_build, saved_build]
        exact saved
  | save name =>
      refine ⟨rfl, query, fun other => ?_⟩
      simp only [Action.redirect, Session.perform, query, saved]
      split <;> rfl
  | load name =>
      simp only [Action.redirect, Session.perform, saved]
      cases s.saved name with
      | none => exact ⟨rfl, query, saved⟩
      | some loaded => exact ⟨rfl, rfl, saved⟩
  | clearLog name => exact ⟨rfl, query, saved⟩

/-- A whole run is answered alike, wherever its reports go. -/
theorem run (h : Redirected f s t) (actions : List Action) :
    (t.run (actions.map (Action.redirect f))).1 = (s.run actions).1 ∧
      Redirected f (s.run actions).2 (t.run (actions.map (Action.redirect f))).2 := by
  induction actions generalizing s t with
  | nil => exact ⟨rfl, h⟩
  | cons action actions ih =>
      obtain ⟨answer, next⟩ := h.perform action
      obtain ⟨answers, last⟩ := ih next
      rw [List.map_cons, run_cons, run_cons]
      exact ⟨by rw [answer, answers], last⟩

end Redirected

end Session

end SqlAssembly
