import SqlAssembly.Event
import SqlAssembly.Text.Cut

/-!
# Attribute sinks

Every built statement is described by attributes, and a sink receives them. One kind of sink
keeps them in a log, one drops them, and one turns each into an event of a span, with long
values cut short.
-/

namespace SqlAssembly

/-- A named text that describes a built statement. -/
structure Attribute where
  key : String
  value : String
deriving DecidableEq

/-! ## Logs -/

/-- The attributes received so far, oldest first. -/
structure AttributeLog where
  attributes : List Attribute
deriving DecidableEq

namespace AttributeLog

def empty : AttributeLog := ⟨[]⟩

def record (log : AttributeLog) (a : Attribute) : AttributeLog := ⟨log.attributes ++ [a]⟩

def recordAll (log : AttributeLog) (received : List Attribute) : AttributeLog :=
  received.foldl record log

/-- The latest value under the key. -/
def get? (log : AttributeLog) (key : String) : Option String :=
  (log.attributes.reverse.find? (·.key = key)).map (·.value)

def contains (log : AttributeLog) (key value : String) : Bool :=
  log.attributes.any fun a => a.key = key && a.value = value

@[simp] theorem attributes_record (log : AttributeLog) (a : Attribute) :
    (log.record a).attributes = log.attributes ++ [a] := rfl

@[simp] theorem attributes_recordAll (log : AttributeLog) (received : List Attribute) :
    (log.recordAll received).attributes = log.attributes ++ received := by
  induction received generalizing log with
  | nil => simp [recordAll]
  | cons a received ih =>
      have step := ih (log.record a)
      simp only [recordAll, List.foldl_cons] at step ⊢
      simp [step]

end AttributeLog

/-! ## Span sinks -/

/-- A sink that emits each attribute as an event in a span, at one level. Without a limit values
are never cut. -/
structure SpanSink where
  span : Option String
  level : Level
  limit : Option Nat
deriving DecidableEq

namespace SpanSink

/-- Debugging events with values of at most 200 bytes. -/
def inSpan (span : Option String) : SpanSink := ⟨span, .debug, some 200⟩

def shorten (sink : SpanSink) (value : String) : String :=
  match sink.limit with
  | none => value
  | some limit => Text.shorten limit value

def event (sink : SpanSink) (a : Attribute) : Event where
  level := sink.level
  target := "pgqb.span"
  span := sink.span
  fields := [("key", a.key), ("value", sink.shorten a.value)]

end SpanSink

/-! ## Sinks -/

/-- A receiver of attributes. Recording sinks of one name are one sink, however many builders
report to it. -/
inductive Sink where
  | recording (name : String)
  | discard
  | span (sink : SpanSink)
deriving DecidableEq

end SqlAssembly
