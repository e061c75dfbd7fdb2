import SqlAssembly.Rendering
import SqlAssembly.Sink

/-!
# Configuration

What a query is told once, when it is created: how the scalars of its conditions are written,
and who receives its attributes. A configuration can also be collected from settings, of which a
later one overrides an earlier one of its kind.
-/

namespace SqlAssembly

structure Config where
  mode : Rendering.Mode
  sink : Option Sink
deriving DecidableEq

inductive Setting where
  /-- Placeholders if true, literals if false. -/
  | parameterize (on : Bool)
  | sink (sink : Sink)
deriving DecidableEq

namespace Config

def default : Config := ⟨.placeholder, none⟩

def inMode (config : Config) (mode : Rendering.Mode) : Config := { config with mode }

def parameterize (config : Config) (on : Bool) : Config :=
  config.inMode (if on then .placeholder else .literal)

def reportTo (config : Config) (sink : Sink) : Config := { config with sink := some sink }

def adjust (config : Config) : Setting → Config
  | .parameterize on => config.parameterize on
  | .sink sink => config.reportTo sink

def ofSettings (settings : List Setting) : Config := settings.foldl adjust default

end Config

/-! ## Descriptions

A configuration and a setting are described for debugging, with a fixed text in place of a
sink. -/

/-- What stands for every sink in a description. -/
def sinkText : String := "\"<dyn AttributeSink>\""

def Rendering.Mode.describe : Rendering.Mode → String
  | .placeholder => "Placeholder"
  | .literal => "Literal"

def Setting.describe : Setting → String
  | .parameterize on => "ParseWhere(" ++ (if on then "true" else "false") ++ ")"
  | .sink _ => "Sink(" ++ sinkText ++ ")"

namespace Config

def describe (config : Config) : String :=
  "QbConfig \x7b mode: " ++ config.mode.describe ++ ", sink: " ++
    (if config.sink.isSome then "Some(" ++ sinkText ++ ")" else "None") ++ " \x7d"

/-- The description with a line for each part, indented by its depth. -/
def describeLines (config : Config) : String :=
  "QbConfig \x7b\n    mode: " ++ config.mode.describe ++ ",\n    sink: " ++
    (if config.sink.isSome then "Some(\n        " ++ sinkText ++ ",\n    )" else "None") ++
    ",\n\x7d"

end Config

end SqlAssembly
