import SqlAssembly.Proofs.Delivery

/-!
# Emission of events

Every statement that is built is announced by one event, and behind it a span sink emits an event
for each attribute of the report. With a log in place of the span sink the same attributes are
recorded, so the span shows what the log holds, only that long values are cut
(`Session.run_emits`). Nothing else that a session does emits an event.
-/

namespace SqlAssembly

/-- A log in place of a span sink; other sinks are kept. -/
def Sink.toLog (name : String) : Option Sink → Option Sink
  | some (.span _) => some (.recording name)
  | sink => sink

/-- The events of a sink that receives the attributes: only a span sink emits any. -/
def Sink.emitted : Option Sink → List Attribute → List Event
  | some (.span sink), received => received.map sink.event
  | _, _ => []

namespace Session

variable (s : Session)

/-! ## Events of one action -/

/-- The statement is announced before its report is delivered. -/
theorem events_build (kind : Statement.Kind) :
    (s.build kind).2.events =
      s.events ++ Query.statementEvent kind (s.query.build kind) ::
        Sink.emitted s.query.config.sink (s.query.report (s.query.build kind).sql) := by
  unfold build
  simp only
  cases s.query.config.sink with
  | none => rfl
  | some sink =>
      cases sink with
      | recording name => rfl
      | discard => rfl
      | span sink => exact List.append_assoc _ _ _

/-- Steps emit nothing, refused steps neither, and what only moves queries and logs emits nothing. -/
theorem events_of_not_build (action : Action) (other : ∀ kind, action ≠ .build kind) :
    (s.perform action).2.events = s.events := by
  cases action with
  | build kind => exact absurd rfl (other kind)
  | configure step => rw [snd_perform_configure]
  | load name => rw [perform_load]
  | _ => rfl

/-! ## Logs in place of span sinks -/

/-- The log that stands for a span sink records the report of the statement. -/
theorem reported_toLog {t : Session} {name : String}
    (h : Redirected (Sink.toLog name) s t) {sink : SpanSink}
    (span : s.query.config.sink = some (.span sink)) (kind : Statement.Kind) :
    (t.turn (.build kind)).reported name = s.query.report (s.query.build kind).sql := by
  have log : t.query.config.sink = some (.recording name) := by
    rw [h.query]
    exact congrArg (Sink.toLog name) span
  have answer : (t.turn (.build kind)).reported name =
      if t.query.config.sink = some (.recording name) then
        t.query.report (t.build kind).1.sql else [] := rfl
  rw [answer, if_pos log, h.fst_build, s.fst_build, h.query]
  rfl

theorem fst_run_concat (actions : List Action) (last : Action) :
    (s.run (actions ++ [last])).1 =
      (s.run actions).1 ++ [((s.run actions).2.perform last).1] := by
  rw [← map_response_turns, turns_concat, List.map_append, map_response_turns]
  rfl

/-! ## The law -/

/-- What is emitted by one more action behind any run. A statement that is built is announced
first, by one event with its kind, the number of its arguments and its text. If the query reports
to a span sink, there follows an event for each attribute that a log would have recorded in place
of the span sink, in the same order and under the same key, with the value shortened; no other sink
emits. Any other action emits nothing, whether it is done or refused. -/
theorem run_emits (q : Query) (actions : List Action) (next : Action) (name : String) :
    let before := (start q).run actions
    let after := (start q).run (actions ++ [next])
    let recording (actions : List Action) : List Attribute :=
      (((start (q.redirect (Sink.toLog name))).run
        (actions.map (Action.redirect (Sink.toLog name)))).2.logs name).attributes
    match next with
    | .build kind =>
        ∃ statement recorded,
          after.1 = before.1 ++ [.built statement] ∧
          recording (actions ++ [next]) = recording actions ++ recorded ∧
          after.2.events = before.2.events ++
            ⟨.debug, "pgqb.sql", none,
              [("query_type", kind.name),
                ("param_count", toString statement.arguments.toList.length),
                ("sql", statement.sql)]⟩ ::
            match before.2.query.config.sink with
            | some (.span sink) =>
                recorded.map fun a =>
                  ⟨sink.level, "pgqb.span", sink.span,
                    [("key", a.key), ("value", sink.shorten a.value)]⟩
            | _ => []
    | _ => after.2.events = before.2.events := by
  intro before after recording
  have last : after.2 = (before.2.perform next).2 := run_concat (start q) actions next
  cases next with
  | build kind =>
      let logging := ((start (q.redirect (Sink.toLog name))).run
        (actions.map (Action.redirect (Sink.toLog name)))).2
      have redirected : Redirected (Sink.toLog name) before.2 logging :=
        ((Redirected.start q).run actions).2
      refine ⟨before.2.query.build kind, (logging.turn (.build kind)).reported name, ?_, ?_, ?_⟩
      · rw [← fst_build]
        exact fst_run_concat (start q) actions (.build kind)
      · simp only [recording, List.map_append, List.map_singleton, run_concat]
        exact logging.attributes_build kind name
      · have emitted := before.2.events_build kind
        rw [last, Arguments.length_toList]
        refine emitted.trans ?_
        congr 2
        cases sink : before.2.query.config.sink with
        | none => rfl
        | some kept =>
            cases kept with
            | recording other => rfl
            | discard => rfl
            | span given =>
                rw [reported_toLog before.2 redirected sink]
                rfl
  | _ => exact (congrArg events last).trans (before.2.events_of_not_build _ nofun)

/-- The statement in one event, then a span event for each attribute. The refused page emits
nothing. -/
example :
    let sink : SpanSink := ⟨some "outer", .info, some 7⟩
    let actions : List Action :=
      [.configure (.fromTable "users"), .configure (.page 0 1), .build .count]
    ((start (.new ⟨.placeholder, some (.span sink)⟩)).run actions).2.events.map
        (fun event => (event.target, event.fields.map Prod.snd)) =
      [("pgqb.sql", ["SelectTotal", "0", "SELECT COUNT(*) AS total FROM \"users\""]),
        ("pgqb.span", ["db.collection.name", "users"]),
        ("pgqb.span", ["db.operation.name", "SELECT"]),
        ("pgqb.span", ["db.query.text", "SELECT ..."])] := by
  decide +kernel

end Session

end SqlAssembly
