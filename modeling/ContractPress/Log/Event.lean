import ContractPress.Json.Printer

/-!
What a run reports on its way.
-/

namespace ContractPress

inductive LogLevel where
  | trace
  | debug
  | info
  | warn
  | error
deriving Repr, DecidableEq

def LogLevel.name : LogLevel → String
  | .trace => "TRACE"
  | .debug => "DEBUG"
  | .info => "INFO"
  | .warn => "WARN"
  | .error => "ERROR"

/-- Higher levels are more urgent. -/
def LogLevel.rank : LogLevel → Nat
  | .trace => 0
  | .debug => 1
  | .info => 2
  | .warn => 3
  | .error => 4

inductive Event where
  | registeringHelper (name : String)
  | processingContract (document : String)
  | parsedContract (paths definitions : Nat)
  | loadingTemplate (template : String)
  | compilingTemplate (template : String)
  | indexingDefinition (name reference : String)
  | builtIndex (definitions : Nat)
  | nothingConfigured
  | startingDefinitionRule (template : String) (definitions : Nat)
  | renderingDefinition (reference : String)
  | groupingPath (path : String)
  | assignedOperation (path verb group : String)
  | startingRouteRule (template groupBy : String) (groups : Nat)
  | renderingGroup (group : String) (members : Nat)
  | emittingArtifact (path : String)
  | finishedContract (document : String) (artifacts : Nat)
  | keptFile (document path : String)
  | wouldWrite (document path : String) (bytes : Nat)
  | wroteFile (document path : String)
  | generationComplete (artifacts written skipped : Nat)
  | generationFailed (error : String)
deriving Repr, DecidableEq

namespace Event

def level : Event → LogLevel
  | .registeringHelper .. | .parsedContract .. | .loadingTemplate .. | .compilingTemplate ..
  | .indexingDefinition .. | .builtIndex .. | .nothingConfigured | .renderingDefinition ..
  | .groupingPath .. | .assignedOperation .. | .renderingGroup .. | .emittingArtifact .. => .debug
  | .processingContract .. | .startingDefinitionRule .. | .startingRouteRule ..
  | .finishedContract .. | .wouldWrite .. | .wroteFile .. | .generationComplete .. => .info
  | .keptFile .. => .warn
  | .generationFailed .. => .error

/-- The part of the program that reports the event; log filters select by it. -/
def target : Event → String
  | .registeringHelper .. | .compilingTemplate .. => "swagger_stencil::render::engine"
  | .parsedContract .. => "swagger_stencil::contract::load"
  | .indexingDefinition .. => "swagger_stencil::contract::index"
  | .groupingPath .. | .assignedOperation .. => "swagger_stencil::contract::group"
  | .processingContract .. | .loadingTemplate .. | .builtIndex .. | .nothingConfigured
  | .startingDefinitionRule .. | .renderingDefinition .. | .startingRouteRule ..
  | .renderingGroup .. | .emittingArtifact .. | .finishedContract .. =>
    "swagger_stencil::pipeline::emit"
  | .keptFile .. | .wouldWrite .. | .wroteFile .. => "swagger_stencil::pipeline::sink"
  | .generationComplete .. => "swagger_stencil::cli::commands"
  | .generationFailed .. => "stencil_gen"

def message : Event → String
  | .registeringHelper .. => "registering helper"
  | .processingContract .. => "processing contract"
  | .parsedContract .. => "parsed contract"
  | .loadingTemplate .. => "loading template"
  | .compilingTemplate .. => "compiling template"
  | .indexingDefinition .. => "indexing definition"
  | .builtIndex .. => "built definition index"
  | .nothingConfigured => "no perDefinition or perPath templates configured"
  | .startingDefinitionRule .. => "executing per-definition template"
  | .renderingDefinition .. => "rendering definition"
  | .groupingPath .. => "grouping path"
  | .assignedOperation .. => "assigned operation"
  | .startingRouteRule .. => "executing per-path template"
  | .renderingGroup .. => "rendering group"
  | .emittingArtifact .. => "emitting artifact"
  | .finishedContract .. => "finished contract"
  | .keptFile .. => "skipping existing file (use --force to overwrite)"
  | .wouldWrite .. => "dry run: would write"
  | .wroteFile .. => "generated"
  | .generationComplete .. => "generation complete"
  | .generationFailed .. => "generation failed"

/-- The particulars of the event. -/
def details : Event → List (String × Json)
  | .registeringHelper name => [("helper", .string name)]
  | .processingContract document => [("document", .string document)]
  | .parsedContract paths definitions =>
    [("paths", .integer paths), ("definitions", .integer definitions)]
  | .loadingTemplate template | .compilingTemplate template => [("template", .string template)]
  | .indexingDefinition name reference =>
    [("definition", .string name), ("reference", .string reference)]
  | .builtIndex definitions => [("definitions", .integer definitions)]
  | .nothingConfigured => []
  | .startingDefinitionRule template definitions =>
    [("template", .string template), ("definitions", .integer definitions)]
  | .renderingDefinition reference => [("definition", .string reference)]
  | .groupingPath path => [("path", .string path)]
  | .assignedOperation path verb group =>
    [("path", .string path), ("verb", .string verb), ("group", .string group)]
  | .startingRouteRule template groupBy groups =>
    [("template", .string template), ("group_by", .string groupBy), ("groups", .integer groups)]
  | .renderingGroup group members =>
    [("group", .string group), ("members", .integer members)]
  | .emittingArtifact path => [("path", .string path)]
  | .finishedContract document artifacts =>
    [("document", .string document), ("artifacts", .integer artifacts)]
  | .keptFile document path | .wroteFile document path =>
    [("document", .string document), ("path", .string path)]
  | .wouldWrite document path bytes =>
    [("document", .string document), ("path", .string path), ("bytes", .integer bytes)]
  | .generationComplete artifacts written skipped =>
    [("artifacts", .integer artifacts), ("written", .integer written),
      ("skipped", .integer skipped)]
  | .generationFailed error => [("error", .string error)]

/-- The event as structured data, its message first. -/
def fields (e : Event) : Json :=
  .object (("message", .string e.message) :: e.details)

end Event

end ContractPress
