import ContractPress.Artifact
import ContractPress.Config.Rule
import ContractPress.Contract.DefinitionIndex
import ContractPress.Contract.RouteGroup
import ContractPress.Template.Value
import ContractPress.Text.Blank
import ContractPress.Text.Case

/-!
Tasks: what the rules ask for.

A rule gives rise to one task for each definition or for each group. A task says which template is
rendered in which context, and what the path of the artifact is.
-/

namespace ContractPress

/-- What a template is rendered for. -/
structure Task where
  template : String
  /-- The reference key of a definition, or the key of a group. -/
  item : String
  context : Template.Value
  path : String
  /-- What is reported when the task begins. -/
  start : Event

/-- A contract with its index, of which all contexts hold the values. -/
structure Subject where
  contract : Contract
  index : DefinitionIndex

namespace Subject

def ofContract (c : Contract) : Subject :=
  ⟨c, .ofContract c⟩

/-- The context that these fields describe. -/
def context (fields : List (String × Json)) : Template.Value :=
  .ofJson (.object fields)

def definitionTask (s : Subject) (template : String) (rule : DefinitionRule) (d : Definition) :
    Task where
  template := template
  item := d.reference
  context := context [("model", s.contract.document), ("definition", d.body),
    ("definitionMap", s.index.toJson), ("options", rule.options)]
  path := artifactPath rule.target (Text.lowercase d.name ++ rule.extension)
  start := .renderingDefinition d.reference

/-- The name of the files of a group, without their ending. -/
def groupFileName (key : String) : String :=
  Text.lowercase (Text.trim key)

def groupTask (s : Subject) (template : String) (rule : RouteRule) (key : String)
    (members : List Operation) : Task where
  template := template
  item := key
  context := context [("fileName", .string (groupFileName key)), ("groupKey", .string key),
    ("members", .array (members.map Operation.annotated)), ("definitionMap", s.index.toJson),
    ("model", s.contract.document), ("options", rule.options)]
  path := artifactPath rule.target (groupFileName key ++ rule.extension)
  start := .renderingGroup key members.length

def definitionTasks (s : Subject) (template : String) (rule : DefinitionRule) : List Task :=
  s.index.toList.map (s.definitionTask template rule)

def groupTasks (s : Subject) (template : String) (rule : RouteRule) (groups : RouteGroups) :
    List Task :=
  groups.entries.map fun e => s.groupTask template rule e.1 e.2

end Subject

end ContractPress
