import SqlAssembly.Query.Report
import SqlAssembly.Query.Step

/-!
# Sessions

A session works on one query at a time, keeps copies of queries under names, and holds the logs
that the queries report to. Queries of one session may be created with different configurations
and share their logs. Building a statement first emits its event and then delivers its report;
configuring emits and reports nothing.
-/

namespace SqlAssembly

structure Session where
  query : Query
  saved : String → Option Query
  logs : String → AttributeLog
  /-- The events emitted so far, oldest first. -/
  events : List Event

inductive Action where
  /-- Goes on with a new query. -/
  | create (config : Config)
  | configure (step : Step)
  | build (kind : Statement.Kind)
  | save (name : String)
  /-- Goes on with a copy of the saved query. -/
  | load (name : String)
  | clearLog (name : String)

inductive Response where
  | done
  | refused (error : BuildError)
  | built (statement : Statement)

namespace Session

def start (query : Query) : Session where
  query := query
  saved := fun _ => none
  logs := fun _ => .empty
  events := []

def emit (s : Session) (emitted : List Event) : Session :=
  { s with events := s.events ++ emitted }

def setLog (s : Session) (name : String) (log : AttributeLog) : Session :=
  { s with logs := fun other => if other = name then log else s.logs other }

def deliver (s : Session) (received : List Attribute) : Sink → Session
  | .recording name => s.setLog name ((s.logs name).recordAll received)
  | .discard => s
  | .span sink => s.emit (received.map sink.event)

/-- Builds the statement, emits its event and delivers its report. -/
def build (s : Session) (kind : Statement.Kind) : Statement × Session :=
  let statement := s.query.build kind
  let announced := s.emit [Query.statementEvent kind statement]
  match s.query.config.sink with
  | none => (statement, announced)
  | some sink => (statement, announced.deliver (s.query.report statement.sql) sink)

/-- Answers one action. A load of a name that was never saved changes nothing. -/
def perform (s : Session) : Action → Response × Session
  | .create config => (.done, { s with query := .new config })
  | .configure step =>
      match s.query.step step with
      | .ok query => (.done, { s with query })
      | .error e => (.refused e, s)
  | .build kind =>
      let (statement, s) := s.build kind
      (.built statement, s)
  | .save name =>
      (.done, { s with saved := fun other => if other = name then some s.query else s.saved other })
  | .load name =>
      match s.saved name with
      | some query => (.done, { s with query })
      | none => (.done, s)
  | .clearLog name => (.done, s.setLog name .empty)

def run (s : Session) : List Action → List Response × Session
  | [] => ([], s)
  | action :: actions =>
      let (response, s) := s.perform action
      let (responses, s) := s.run actions
      (response :: responses, s)

end Session

end SqlAssembly
