import ContractPress.Log.Event
import ContractPress.Text.Case

/-!
How much is reported and in which form, as the environment says.
-/

namespace ContractPress

inductive LogFormat where
  | json
  | pretty
deriving Repr, DecidableEq

def LogFormat.ofText (text : String) : LogFormat :=
  if Text.lowercase text = "json" then .json else .pretty

/-- The values of variables. -/
abbrev Environment := String → Option String

structure LogSettings where
  /-- The level as it was written. -/
  levelName : String
  format : LogFormat
  /-- Further directives of the filter, with commas between them. -/
  targetFilter : Option String
  /-- Whether events say where in the program they come from. -/
  includeLocation : Bool
deriving Repr, DecidableEq

namespace LogSettings

def ofEnvironment (environment : Environment) : LogSettings where
  levelName := (environment "STENCIL_LOG_LEVEL").getD "info"
  format := .ofText ((environment "STENCIL_LOG_FORMAT").getD "pretty")
  targetFilter := environment "STENCIL_LOG_TARGET_FILTER"
  includeLocation := environment "STENCIL_LOG_INCLUDE_LOCATION" = some "true"

/-- The settings for work on the program itself. -/
def development : LogSettings :=
  ⟨"debug", .pretty, none, true⟩

def verbose (s : LogSettings) (isVerbose : Bool) : LogSettings :=
  if isVerbose then { s with levelName := "debug" } else s

/-- The level that the name stands for; the usual one if it stands for none. -/
def level (s : LogSettings) : LogLevel :=
  match Text.lowercase s.levelName with
  | "trace" => .trace
  | "debug" => .debug
  | "warn" => .warn
  | "error" => .error
  | _ => .info

end LogSettings

end ContractPress
