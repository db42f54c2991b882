import ContractPress.Json
import ContractPress.OrderedMap

/-!
Contracts: a document with its paths and its definitions.
-/

namespace ContractPress

/-- The verbs that count when a rule does not name its own. -/
def defaultVerbs : List String :=
  ["get", "put", "post", "delete"]

/-- One path of a contract: its operations under their verbs, and fields that they share. -/
structure PathItem where
  path : String
  fields : OrderedMap Json

structure Contract where
  /-- The whole document, as templates see it. -/
  document : Json
  /-- The item of each path, in document order. -/
  paths : OrderedMap PathItem
  /-- The body of each definition, in document order. -/
  definitions : OrderedMap Json

namespace PathItem

def operation? (item : PathItem) (verb : String) : Option Json :=
  item.fields.get? verb

def field? (item : PathItem) (name : String) : Option Json :=
  item.fields.get? name

/-- The path's fields together with the path itself. -/
def annotated (item : PathItem) : Json :=
  .object (item.fields.insert "pathString" (.string item.path)).entries

end PathItem

namespace Contract

def pathItems (c : Contract) : List PathItem :=
  c.paths.values

/-- The number of operations under the listed verbs; a verb listed twice counts twice. -/
def operationCount (c : Contract) (verbs : List String) : Nat :=
  c.pathItems.foldl
    (fun count item => count + verbs.countP fun v => (item.operation? v).isSome) 0

end Contract

end ContractPress
