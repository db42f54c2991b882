import ContractPress.CommandLine.Invocation
import ContractPress.CommandLine.Overview
import ContractPress.File.Sink

/-!
Running commands: what is read, what is written, and what is said about it.
-/

namespace ContractPress

/-- Why a command failed. -/
inductive RunCause where
  | failure (failure : Failure)
  | unreadable
deriving Repr, DecidableEq

/-- The cause, and what was being done if that is worth saying. -/
structure RunFailure where
  context : Option String
  cause : RunCause
deriving Repr, DecidableEq

namespace Failure

/-- The message of a failure, followed by those of what caused it. -/
def chain : Failure → List String
  | failure@(.templateLoad _ fault) => [failure.message, fault.message]
  | failure@(.templateCompile ..) | failure@(.templateRender ..) => [failure.message, "<engine>"]
  | failure@(.write _) => [failure.message, "<io>"]
  | failure@(.document _ cause) => failure.message :: cause.chain
  | failure@(.parse _) | failure@(.grouping ..) | failure@(.config _) | failure@(.outputPath ..) =>
    [failure.message]

end Failure

namespace RunFailure

def chain (f : RunFailure) : List String :=
  f.context.toList ++ match f.cause with
    | .failure failure => failure.chain
    | .unreadable => ["<io>"]

/-- The first message. -/
def message (f : RunFailure) : String :=
  f.chain.headD ""

/-- All messages on one line. -/
def wholeMessage (f : RunFailure) : String :=
  ": ".intercalate f.chain

end RunFailure

/-- What a command leaves behind, the files apart. -/
structure Outcome where
  events : List Event
  output : String
  result : Except RunFailure Unit

/-- The lines about the files that have been generated and those that have been kept. -/
def generationSummary (report : WriteReport) (output : String) (dryRun : Bool) : List String :=
  ("✅ " ++ (if dryRun then "Would generate " else "Generated ") ++
      toString report.written.length ++ " file(s) in " ++ output) ::
    if report.skipped.isEmpty then []
    else ("⚠️  Kept " ++ toString report.skipped.length ++
        " existing file(s) unchanged; they may be stale. Re-run with --force to regenerate:") ::
      report.skipped.map ("   " ++ ·)

variable {m : Type → Type} [Monad m]

/-- Reads documents and generates from them by a configuration, the templates of which are found
from `root`. -/
def generateFiles (files : FileAccess m) (config : Config) (root : String) (specs : List String)
    (sink : FileSink) : m (Traced Nat × WriteReport) := do
  match ← files.readDocuments specs with
  | .error failure => return (.fail failure, .empty)
  | .ok documents =>
    let source : TemplateSource (StateT WriteReport m) := fun id =>
      StateT.lift (files.templates root id)
    let ((_, total), report) ←
      (Generator.generateAll source (sink.sink files) documents (.new config .builtin)).run .empty
    return (total, report)

/-- What is reported when the helpers are made known to the templates. -/
def helperEvents : List Event :=
  HelperSet.builtin.keys.map .registeringHelper

def runGenerate (files : FileAccess m) (specs : List String) (config : String) (sink : FileSink) :
    m Outcome := do
  match ← files.readConfig config with
  | .error failure =>
    return ⟨[], "", .error ⟨some ("failed to load configuration " ++ config), .failure failure⟩⟩
  | .ok c =>
    let (total, report) ← generateFiles files c (templateRoot config) specs sink
    match total.result with
    | .error failure => return ⟨helperEvents ++ total.events, "", .error ⟨none, .failure failure⟩⟩
    | .ok count =>
      let complete := .generationComplete count report.written.length report.skipped.length
      return ⟨helperEvents ++ total.events ++ [complete],
        Overview.text (generationSummary report sink.root sink.dryRun), .ok ()⟩

def runInspect (files : FileAccess m) (spec groupBy : String) (verbs : List String) :
    m Outcome := do
  match ← files.readText? spec with
  | none => return ⟨[], "", .error ⟨some ("failed to read " ++ spec), .unreadable⟩⟩
  | some text =>
    let report := overview text groupBy verbs
    match report.result with
    | .error failure =>
      return ⟨report.events, "", .error ⟨some ("failed to inspect " ++ spec), .failure failure⟩⟩
    | .ok lines => return ⟨report.events, lines, .ok ()⟩

def Command.run (files : FileAccess m) : Command → m Outcome
  | .generate specs config output force dryRun =>
    runGenerate files specs config ⟨output, force, dryRun⟩
  | .inspect spec groupBy operations =>
    runInspect files spec groupBy (operations.getD defaultVerbs)

end ContractPress
