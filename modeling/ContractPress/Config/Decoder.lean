import ContractPress.Config.Basic

/-!
Reading rules from the values of some data format.

A decoder says what the format's values mean where a rule expects a text, a list of texts and so on.
A field of a rule may be given once only; of further fields with one name the first gives the place
and the last the value.
-/

namespace ContractPress

/-- How the values `ν` of a format are understood. -/
structure Decoder (ν : Type) where
  text? : ν → Option String
  /-- A text, or a value that stands for no text. -/
  optionalText? : ν → Option (Option String)
  texts? : ν → Option (List String)
  json? : ν → Option Json
  entries? : ν → Option (List (String × ν))

namespace Decoder

variable {ν α : Type}

/-- Reads a field that is there at most once. -/
def field? (read : ν → Option α) (missing : Option α) (name : String)
    (entries : List (String × ν)) : Option α :=
  match entries.filter (·.1 = name) with
  | [] => missing
  | [e] => read e.2
  | _ => none

/-- Reads the fields that a rule has no names of its own for. -/
def extra? (d : Decoder ν) (ownNames : List String) (entries : List (String × ν)) :
    Option (OrderedMap Json) := do
  let further ← (entries.filter fun e => !ownNames.contains e.1).mapM fun e => do
    return (e.1, ← d.json? e.2)
  return .ofList further

def definitionRule? (d : Decoder ν) (value : ν) : Option DefinitionRule := do
  let entries ← d.entries? value
  let target ← field? d.text? (some "") "target" entries
  let extension ← field? d.text? (some "") "extension" entries
  let extra ← d.extra? DefinitionRule.ownNames entries
  return ⟨target, extension, extra⟩

def routeRule? (d : Decoder ν) (value : ν) : Option RouteRule := do
  let entries ← d.entries? value
  let target ← field? d.text? (some "") "target" entries
  let extension ← field? d.text? (some "") "extension" entries
  let groupBy ← field? d.text? none "groupBy" entries
  let operations ← field? d.texts? (some defaultVerbs) "operations" entries
  let implementationPath ← field? d.optionalText? (some none) "implementationPath" entries
  let defsRelativeToController ←
    field? d.optionalText? (some none) "defsRelativeToController" entries
  let extra ← d.extra? RouteRule.ownNames entries
  return ⟨target, extension, groupBy, operations, implementationPath, defsRelativeToController,
    extra⟩

/-- Reads the rules of a table, a template named twice having the last of its rules. -/
def rules? (d : Decoder ν) (rule? : ν → Option α) (value : ν) : Option (OrderedMap α) := do
  let rules ← (← d.entries? value).mapM fun e => do return (e.1, ← rule? e.2)
  return .ofList rules

/-- The names of the two tables of a configuration. All else in it is ignored. -/
def tableNames : List String :=
  ["perDefinition", "perPath"]

def config? (d : Decoder ν) (value : ν) : Option Config := do
  let entries ← d.entries? value
  let perDefinition ← field? (d.rules? d.definitionRule?) (some .empty) "perDefinition" entries
  let perPath ← field? (d.rules? d.routeRule?) (some .empty) "perPath" entries
  return ⟨perDefinition, perPath⟩

end Decoder

end ContractPress
