import Mathlib.Data.List.DropRight
import SqlAssembly.Proofs.Redirection

/-!
# Delivery of reports

What a run of a session leaves in its logs, and what it answers. A log holds the reports of the
statements that were built since it was last cleared by those queries that report to it
(`Session.log_run`). Nothing is read from a log: a run whose sinks are all redirected to none has
the same answers (`Session.Redirected.run`).
-/

namespace SqlAssembly

/-! ## Logs -/

namespace AttributeLog

/-- The value under a key is that of the last attribute with the key. -/
theorem get?_eq_some_iff (log : AttributeLog) (key value : String) :
    log.get? key = some value ↔
      ∃ older newer, log.attributes = older ++ ⟨key, value⟩ :: newer ∧
        ∀ a ∈ newer, a.key ≠ key := by
  unfold get?
  rw [Option.map_eq_some_iff]
  constructor
  · rintro ⟨⟨k, v⟩, found, rfl⟩
    obtain ⟨same, newer, older, split, others⟩ := List.find?_eq_some_iff_append.mp found
    obtain rfl : k = key := by simpa using same
    refine ⟨older.reverse, newer.reverse, ?_, ?_⟩
    · rw [← List.reverse_inj, split]
      simp
    · intro a ha
      simpa using others a (List.mem_reverse.mp ha)
  · rintro ⟨older, newer, split, others⟩
    refine ⟨⟨key, value⟩, List.find?_eq_some_iff_append.mpr ?_, rfl⟩
    refine ⟨by simp, newer.reverse, older.reverse, ?_, ?_⟩
    · rw [split]
      simp
    · intro a ha
      simpa using others a (List.mem_reverse.mp ha)

theorem get?_eq_none_iff (log : AttributeLog) (key : String) :
    log.get? key = none ↔ ∀ a ∈ log.attributes, a.key ≠ key := by
  simp [get?]

theorem contains_iff (log : AttributeLog) (key value : String) :
    log.contains key value = true ↔ ⟨key, value⟩ ∈ log.attributes := by
  unfold contains
  rw [List.any_eq_true]
  constructor
  · rintro ⟨a, mem, same⟩
    simp only [Bool.and_eq_true, decide_eq_true_eq] at same
    obtain ⟨rfl, rfl⟩ := same
    exact mem
  · intro mem
    exact ⟨_, mem, by simp⟩

end AttributeLog

/-! ## Reports of turns -/

/-- The report in full. -/
theorem Query.report_eq (q : Query) (sql : String) :
    q.report sql =
      (q.source.map fun table => ⟨"db.collection.name", table.table.name⟩).toList ++
        [⟨"db.operation.name", "SELECT"⟩, ⟨"db.query.text", sql⟩] ++
        (q.filter.required.flatten ++ q.filter.alternatives.flatten).flatMap fun c =>
          match c.value with
          | some (.scalar s) => [⟨"db.query.parameter." ++ c.column, s.display⟩]
          | _ => [] := by
  have source : q.sourceAttribute =
      (q.source.map fun table => ⟨"db.collection.name", table.table.name⟩).toList := by
    unfold sourceAttribute
    cases q.source <;> rfl
  have parameter (c : Condition) : c.parameter?.toList =
      match c.value with
      | some (.scalar s) => [⟨"db.query.parameter." ++ c.column, s.display⟩]
      | _ => [] := by
    unfold Condition.parameter?
    rcases c.value with _ | s | items <;> rfl
  rw [report, source, conditions, List.flatten_append, List.filterMap_eq_flatMap_toList]
  simp only [parameter]

namespace Turn

def clears (name : String) (t : Turn) : Bool :=
  match t.action with
  | .clearLog other => other = name
  | _ => false

/-- What the turn adds to a log: the report of the statement that was built, if the query reports
to the log. -/
def reported (name : String) (t : Turn) : List Attribute :=
  match t.response with
  | .built statement =>
      if t.query.config.sink = some (.recording name) then t.query.report statement.sql else []
  | _ => []

end Turn

namespace Session

/-! ## Logs after a run -/

theorem attributes_deliver (s : Session) (received : List Attribute) (sink : Sink)
    (name : String) :
    ((s.deliver received sink).logs name).attributes =
      (s.logs name).attributes ++ if sink = .recording name then received else [] := by
  cases sink with
  | recording other =>
      by_cases same : name = other
      · subst same
        simp [deliver, setLog]
      · have others : Sink.recording other ≠ .recording name := by
          rintro ⟨⟩
          exact same rfl
        simp [deliver, setLog, same, others]
  | discard => simp [deliver]
  | span sink => simp [deliver, emit]

/-- Building adds a report to the log that the query reports to, and nothing to the others. -/
theorem attributes_build (s : Session) (kind : Statement.Kind) (name : String) :
    ((s.build kind).2.logs name).attributes =
      (s.logs name).attributes ++ (s.turn (.build kind)).reported name := by
  have answer : (s.turn (.build kind)).reported name =
      if s.query.config.sink = some (.recording name) then
        s.query.report (s.build kind).1.sql else [] := rfl
  rw [answer]
  unfold build
  simp only
  split
  · rename_i none
    simp [none, emit]
  · rename_i sink some
    rw [attributes_deliver]
    simp [some, emit]

/-- Steps leave all logs as they are, refused steps too. -/
theorem logs_configure (s : Session) (step : Step) :
    (s.perform (.configure step)).2.logs = s.logs := by
  rw [snd_perform_configure]

/-- Only a statement that is built is reported. -/
theorem reported_of_not_build (s : Session) (action : Action)
    (other : ∀ kind, action ≠ .build kind) (name : String) :
    (s.turn action).reported name = [] := by
  unfold Turn.reported
  split
  · rename_i statement built
    obtain ⟨kind, same, _⟩ := (s.response_eq_built_iff action statement).mp built
    exact absurd same (other kind)
  · rfl

/-- An action either clears a log or adds to it what its turn reports. -/
theorem attributes_perform (s : Session) (action : Action) (name : String) :
    ((s.perform action).2.logs name).attributes =
      if (s.turn action).clears name then []
      else (s.logs name).attributes ++ (s.turn action).reported name := by
  cases action with
  | build kind => exact s.attributes_build kind name
  | create config => exact (List.append_nil _).symm
  | save other => exact (List.append_nil _).symm
  | configure step =>
      rw [logs_configure, s.reported_of_not_build (.configure step) nofun, List.append_nil]
      rfl
  | load other =>
      rw [perform_load, s.reported_of_not_build (.load other) nofun, List.append_nil]
      rfl
  | clearLog other =>
      by_cases same : name = other
      · subst same
        simp [perform, setLog, turn, Turn.clears, AttributeLog.empty]
      · have others : other ≠ name := fun h => same h.symm
        simp [perform, setLog, turn, Turn.clears, Turn.reported, same, others]

/-- A log holds what was reported since it was last cleared. -/
theorem log_run (q : Query) (actions : List Action) (name : String) :
    (((start q).run actions).2.logs name).attributes =
      (((start q).turns actions).rtakeWhile fun t => !t.clears name).flatMap
        (Turn.reported name) := by
  induction actions using List.reverseRecOn with
  | nil => rfl
  | append_singleton actions last ih =>
      rw [run_concat, turns_concat, attributes_perform, ih]
      cases clear : (((start q).run actions).2.turn last).clears name with
      | true => simp [clear]
      | false => simp [clear]

/-! ## The law -/

/-- What the sinks of a run receive, and what they do not change. The answers of the turns are
those of the run, and statements are what the queries of the turns build. A log holds, oldest
first, the reports of the statements built since it was last cleared by queries that report to it.
A report names the table if there is one, the operation and the text, and then the scalar of every
condition that has a single one, required groups first. Steps report nothing, whether they are
taken or refused. A log is read by its latest attribute of a key, and by whether an attribute is
in it. The run with every sink redirected to none has the same answers. -/
theorem run_delivers (q : Query) (actions : List Action) :
    let turns := (start q).turns actions
    let answers := ((start q).run actions).1
    let logs := ((start q).run actions).2.logs
    (turns.map Turn.action = actions ∧ turns.map Turn.response = answers ∧
      ∀ t ∈ turns, ∀ statement, t.response = .built statement ↔
        ∃ kind, t.action = .build kind ∧ statement = t.query.build kind) ∧
    (∀ name, (logs name).attributes =
      (turns.rtakeWhile fun t => !t.clears name).flatMap (Turn.reported name)) ∧
    (∀ (sender : Query) (sql : String), sender.report sql =
      (sender.source.map fun table => ⟨"db.collection.name", table.table.name⟩).toList ++
        [⟨"db.operation.name", "SELECT"⟩, ⟨"db.query.text", sql⟩] ++
        (sender.filter.required.flatten ++ sender.filter.alternatives.flatten).flatMap fun c =>
          match c.value with
          | some (.scalar s) => [⟨"db.query.parameter." ++ c.column, s.display⟩]
          | _ => []) ∧
    (∀ (s : Session) (step : Step), (s.perform (.configure step)).2.logs = s.logs) ∧
    (∀ name key,
      (∀ value, (logs name).get? key = some value ↔
        ∃ older newer, (logs name).attributes = older ++ ⟨key, value⟩ :: newer ∧
          ∀ a ∈ newer, a.key ≠ key) ∧
      ((logs name).get? key = none ↔ ∀ a ∈ (logs name).attributes, a.key ≠ key) ∧
      ∀ value, (logs name).contains key value = true ↔
        ⟨key, value⟩ ∈ (logs name).attributes) ∧
    ((start (q.redirect fun _ => none)).run
      (actions.map (Action.redirect fun _ => none))).1 = answers := by
  intro turns answers logs
  refine ⟨⟨?_, ?_, ?_⟩, log_run q actions, Query.report_eq, logs_configure, ?_, ?_⟩
  · exact map_action_turns _ actions
  · exact map_response_turns _ actions
  · intro t mem statement
    obtain ⟨before, action, rfl⟩ := exists_of_mem_turns mem
    exact before.response_eq_built_iff action statement
  · intro name key
    exact ⟨(logs name).get?_eq_some_iff key, (logs name).get?_eq_none_iff key,
      (logs name).contains_iff key⟩
  · exact ((Redirected.start q).run actions).1

/-- Two queries share a log, and the one that is loaded again reports to it behind the other. What
came before the clearing is gone. -/
example :
    ((((start (.new ⟨.placeholder, some (.recording "audit")⟩)).run
      [.configure (.fromTable "users"), .build .count, .save "users",
        .create ⟨.literal, some (.recording "audit")⟩, .clearLog "audit", .build .count,
        .configure (.fromTable ""), .load "users", .build .count]).2.logs "audit").attributes.map
          (·.value)) =
      ["SELECT", "SELECT COUNT(*) AS total FROM ", "users", "SELECT",
        "SELECT COUNT(*) AS total FROM \"users\""] := by
  decide +kernel

end Session

end SqlAssembly
