/-!
# Events

What is emitted while statements are built: a level, a target, the span that the event happened
in if any, and named texts.
-/

namespace SqlAssembly

inductive Level where
  | error
  | warn
  | info
  | debug
  | trace
deriving DecidableEq

namespace Level

def name : Level → String
  | .error => "ERROR"
  | .warn => "WARN"
  | .info => "INFO"
  | .debug => "DEBUG"
  | .trace => "TRACE"

def all : List Level := [.error, .warn, .info, .debug, .trace]

def ofName? (name : String) : Option Level := all.find? (·.name = name)

end Level

structure Event where
  level : Level
  target : String
  span : Option String
  fields : List (String × String)
deriving DecidableEq

end SqlAssembly
