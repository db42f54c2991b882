import ContractPress.Config.Basic
import ContractPress.Contract.Reader
import ContractPress.Generator.Task
import ContractPress.Template.Renderer

/-!
Generators: from contracts to artifacts.

The tasks of all rules are carried out one after the other. Templates are loaded when a contract
first needs them and kept from then on, so a generator changes with every contract, whether it
succeeds or not.
-/

namespace ContractPress

/-- Where the sources of templates come from. -/
abbrev TemplateSource (m : Type → Type) := String → m (Except SourceFault String)

/-- Sources under their identifiers. -/
def TemplateSource.inline (sources : OrderedMap String) : TemplateSource Id := fun id =>
  match sources.get? id with
  | some text => .ok text
  | none => .error (.notInMemory id)

/-- Loads and compiles the templates that are not compiled yet, in order, up to the first one that
fails. -/
def Renderer.prepare {m : Type → Type} [Monad m] (source : TemplateSource m) :
    List String → Renderer → m (Renderer × Traced Unit)
  | [], r => return (r, pure ())
  | id :: ids, r =>
    if r.isCompiled id then prepare source ids r
    else do
      match ← source id with
      | .error fault => return (r, do
        .note (.loadingTemplate id)
        .fail (.templateLoad id fault))
      | .ok text => match r.attempt id text with
        | (.error failure, r) => return (r, do
          .note (.loadingTemplate id)
          .note (.compilingTemplate id)
          .fail failure)
        | (.ok (), r) =>
          let (r, rest) ← prepare source ids r
          return (r, do
            .note (.loadingTemplate id)
            .note (.compilingTemplate id)
            rest)

/-- What is done to every artifact before its path is checked. -/
abbrev PostProcessor := Artifact → Except Failure Artifact

structure Generator where
  config : Config
  renderer : Renderer
  postProcessor : Option PostProcessor

namespace Generator

def new (config : Config) (helpers : HelperSet) : Generator :=
  ⟨config, .new helpers, none⟩

/-- Refuses an artifact whose path leads out of the output root. -/
def checkPath (item : String) (a : Artifact) : Except Failure Artifact :=
  if Path.escapesRoot a.path then .error (.outputPath item a.path) else .ok a

/-- Applies the post-processor, if there is one, and checks the path. -/
def finish (g : Generator) (item : String) (a : Artifact) : Except Failure Artifact := do
  match g.postProcessor with
  | some process => checkPath item (← process a)
  | none => checkPath item a

def carryOut (g : Generator) (tree : Template.Tree) (t : Task) : Traced Artifact := do
  .note t.start
  let contents ← .ofResult (g.renderer.renderTree t.template tree t.context t.item)
  .note (.emittingArtifact t.path)
  .ofResult (g.finish t.item ⟨t.path, contents⟩)

def renderDefinitions (g : Generator) (s : Subject) (template : String) (rule : DefinitionRule) :
    Traced (List Artifact) := do
  .note (.startingDefinitionRule template s.index.size)
  let tree ← .ofResult (g.renderer.template template)
  (s.definitionTasks template rule).mapM (g.carryOut tree)

def renderGroups (g : Generator) (s : Subject) (template : String) (rule : RouteRule) :
    Traced (List Artifact) := do
  let tree ← .ofResult (g.renderer.template template)
  let groups ← RouteGroups.traced s.contract rule.groupBy rule.operations
  .note (.startingRouteRule template rule.groupBy groups.size)
  (s.groupTasks template rule groups).mapM (g.carryOut tree)

/-- Carries out all rules, those of definitions first. -/
def render (g : Generator) (s : Subject) : Traced (List Artifact) := do
  if g.config.isEmpty then
    .note .nothingConfigured
    return []
  let ofDefinitions ← g.config.perDefinition.entries.mapM fun e => g.renderDefinitions s e.1 e.2
  let ofGroups ← g.config.perPath.entries.mapM fun e => g.renderGroups s e.1 e.2
  return ofDefinitions.flatten ++ ofGroups.flatten

variable {m : Type → Type} [Monad m]

/-- Carries out all rules for one contract with templates that have been prepared. -/
def generatePrepared (g : Generator) (prepared : Traced Unit) (c : Contract) :
    Traced (List Artifact) := do
  prepared
  let subject := Subject.ofContract c
  (DefinitionIndex.events c).forM .note
  .note (.builtIndex subject.index.size)
  g.render subject

/-- Loads what is missing and carries out all rules for one contract. -/
def generateContract (g : Generator) (source : TemplateSource m) (c : Contract) :
    m (Generator × Traced (List Artifact)) := do
  let (renderer, prepared) ← Renderer.prepare source g.config.templates g.renderer
  let g := { g with renderer }
  return (g, g.generatePrepared prepared c)

/-- The artifacts of a contract in a text; a failure names the document. -/
def generate (g : Generator) (source : TemplateSource m) (name text : String) :
    m (Generator × Traced (List Artifact)) := do
  match Contract.parse text with
  | .error failure => return (g, do
    .note (.processingContract name)
    .fail (.document name failure))
  | .ok c =>
    let (g, artifacts) ← g.generateContract source c
    return (g, do
      .note (.processingContract name)
      .note (.parsedContract c.paths.size c.definitions.size)
      let artifacts ← artifacts.mapFailure (.document name)
      .note (.finishedContract name artifacts.length)
      return artifacts)

end Generator

end ContractPress
