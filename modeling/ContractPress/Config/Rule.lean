import ContractPress.Contract.Model
import ContractPress.Json

/-!
Rules: which files a template makes.

A rule has fields of its own, and further ones that only templates look at. As `options` a template
sees them all.
-/

namespace ContractPress

/-- One file for each definition. -/
structure DefinitionRule where
  /-- The directory of the files. -/
  target : String
  /-- The ending of the files' names. -/
  extension : String
  extra : OrderedMap Json

/-- One file for each group of operations. -/
structure RouteRule where
  target : String
  extension : String
  /-- The field that names an operation's group. -/
  groupBy : String
  /-- The verbs whose operations count. -/
  operations : List String
  implementationPath : Option String
  defsRelativeToController : Option String
  extra : OrderedMap Json

/-- A field that is there only if it has a value. -/
def optionalField (name : String) (value : Option String) : List (String × Json) :=
  match value with
  | some text => [(name, .string text)]
  | none => []

namespace DefinitionRule

/-- The names of the fields that are not further ones. -/
def ownNames : List String :=
  ["target", "extension"]

def ownFields (rule : DefinitionRule) : List (String × Json) :=
  [("target", .string rule.target), ("extension", .string rule.extension)]

def options (rule : DefinitionRule) : Json :=
  .object (Entries.ofList (rule.ownFields ++ rule.extra.entries))

end DefinitionRule

namespace RouteRule

def ownNames : List String :=
  ["target", "extension", "groupBy", "operations", "implementationPath", "defsRelativeToController"]

def ownFields (rule : RouteRule) : List (String × Json) :=
  [("target", .string rule.target), ("extension", .string rule.extension),
    ("groupBy", .string rule.groupBy), ("operations", .array (rule.operations.map .string))] ++
  optionalField "implementationPath" rule.implementationPath ++
  optionalField "defsRelativeToController" rule.defsRelativeToController

def options (rule : RouteRule) : Json :=
  .object (Entries.ofList (rule.ownFields ++ rule.extra.entries))

end RouteRule

end ContractPress
