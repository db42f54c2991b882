import ContractPress.Generator.Basic
import ContractPress.Json.Printer

/-!
Texts for people who look into a generator: every part under its name, values with their kinds.
-/

namespace ContractPress

/-- Named parts of a record between braces. -/
def recordText (name : String) (parts : List (String × String)) : String :=
  name ++ " \x7b " ++ ", ".intercalate (parts.map fun p => p.1 ++ ": " ++ p.2) ++ " \x7d"

def listText (items : List String) : String :=
  "[" ++ ", ".intercalate items ++ "]"

def tableText (entries : List (String × String)) : String :=
  "\x7b" ++ ", ".intercalate (entries.map fun e => Text.quoted e.1 ++ ": " ++ e.2) ++ "\x7d"

namespace Json

mutual

def debugText : Json → String
  | .null => "Null"
  | .bool b => "Bool(" ++ (if b then "true" else "false") ++ ")"
  | .integer n => "Number(" ++ toString n ++ ")"
  | .float x => "Number(" ++ floatText x ++ ")"
  | .string s => "String(" ++ Text.quoted s ++ ")"
  | .array items => "Array " ++ listText (debugItems items)
  | .object fields => "Object " ++ tableText (debugFields fields)

def debugItems : List Json → List String
  | [] => []
  | item :: rest => debugText item :: debugItems rest

def debugFields : List (String × Json) → List (String × String)
  | [] => []
  | (name, value) :: rest => (name, debugText value) :: debugFields rest

end

end Json

def optionText (value : Option String) : String :=
  match value with
  | some text => "Some(" ++ Text.quoted text ++ ")"
  | none => "None"

def DefinitionRule.debugText (rule : DefinitionRule) : String :=
  recordText "DefinitionSpec" [
    ("target", Text.quoted rule.target),
    ("extension", Text.quoted rule.extension),
    ("extra", tableText (Json.debugFields rule.extra.entries))]

def RouteRule.debugText (rule : RouteRule) : String :=
  recordText "RouteSpec" [
    ("target", Text.quoted rule.target),
    ("extension", Text.quoted rule.extension),
    ("group_by", Text.quoted rule.groupBy),
    ("operations", listText (rule.operations.map Text.quoted)),
    ("implementation_path", optionText rule.implementationPath),
    ("defs_relative_to_controller", optionText rule.defsRelativeToController),
    ("extra", tableText (Json.debugFields rule.extra.entries))]

def Config.debugText (c : Config) : String :=
  recordText "GeneratorConfig" [
    ("per_definition", tableText (c.perDefinition.entries.mapValues DefinitionRule.debugText)),
    ("per_path", tableText (c.perPath.entries.mapValues RouteRule.debugText))]

/-- The generator without its templates and their sources. -/
def Generator.debugText (g : Generator) : String :=
  "Generator \x7b config: " ++ g.config.debugText ++ ", renderer: " ++ g.renderer.debugText ++
    ", post_processor: " ++ (if g.postProcessor.isSome then "true" else "false") ++ ", .. \x7d"

end ContractPress
