import ContractPress.CommandLine.Run
import ContractPress.Log.Filter

/-!
The program from its words and its environment to its exit code.
-/

namespace ContractPress

/-- What a run of the program shows. -/
structure ProcessOutcome where
  exitCode : Nat
  output : String
  /-- The lines about the run itself, apart from events. -/
  notices : List String
  settings : LogSettings
  /-- The events that the filter lets through. -/
  events : List Event

/-- How the program is used. -/
def usage : List String :=
  ["Render code from Swagger contracts through templates",
    "",
    "Usage: stencil-gen [OPTIONS] <COMMAND>",
    "",
    "Commands:",
    "  generate  --spec <SPEC>... --config <CONFIG> [--output <OUTPUT>] [--force] [--dry-run]",
    "  inspect   --spec <SPEC> [--group-by <GROUP_BY>] [--operations <OPERATIONS>]",
    "  help      Print this message",
    "",
    "Options:",
    "  -v, --verbose",
    "  -h, --help"]

/-- The variable that takes the place of the level. -/
def filterVariable : String :=
  "RUST_LOG"

/-- All variables that the program looks at. -/
def variableNames : List String :=
  ["STENCIL_LOG_LEVEL", "STENCIL_LOG_FORMAT", "STENCIL_LOG_TARGET_FILTER",
    "STENCIL_LOG_INCLUDE_LOCATION", filterVariable]

variable {m : Type → Type} [Monad m]

/-- The answer to words that ask for help or cannot be understood. -/
def answerFault (settings : LogSettings) (fault : ArgumentFault) : ProcessOutcome :=
  match fault with
  | .help => ⟨0, Overview.text usage, [], settings, []⟩
  | _ => ⟨2, "", usage, settings, []⟩

def runInvocation (files : FileAccess m) (environment : Environment) (i : Invocation) :
    m ProcessOutcome := do
  let settings := (LogSettings.ofEnvironment environment).verbose i.verbose
  let filter := LogFilter.ofSettings settings (environment filterVariable)
  let warnings := LogFilter.warnings settings
  let o ← i.command.run files
  match o.result with
  | .ok () => return ⟨0, o.output, warnings, settings, o.events.filter filter.admits⟩
  | .error failure =>
    let events := o.events ++ [.generationFailed failure.message]
    return ⟨1, o.output, warnings ++ ["❌ " ++ failure.wholeMessage], settings,
      events.filter filter.admits⟩

def runProcess (files : FileAccess m) (environment : Environment) (words : List String) :
    m ProcessOutcome :=
  match Invocation.parse words with
  | .ok i => runInvocation files environment i
  | .error fault => return answerFault (.ofEnvironment environment) fault

end ContractPress
