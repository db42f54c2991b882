import ContractPress.Contract.Model
import ContractPress.Log.Event

/-!
The definitions of a contract under their reference keys.
-/

namespace ContractPress

/-- What every reference key begins with. -/
def definitionsPointer : String :=
  "#/definitions/"

def referenceKey (name : String) : String :=
  definitionsPointer ++ name

/-- A definition, its body bearing its name and its reference key. -/
structure Definition where
  name : String
  reference : String
  body : Json

/-- A body that is not a mapping gives way to one that holds the annotations only. -/
def Definition.annotate (name : String) (body : Json) : Definition where
  name := name
  reference := referenceKey name
  body := .object ((body.fieldsOrEmpty.insert "definitionName" (.string name)).insert
    "referencePath" (.string (referenceKey name)))

structure DefinitionIndex where
  definitions : OrderedMap Definition

namespace DefinitionIndex

def ofContract (c : Contract) : DefinitionIndex where
  definitions := .ofList (c.definitions.entries.map fun e =>
    (referenceKey e.1, Definition.annotate e.1 e.2))

def get? (index : DefinitionIndex) (reference : String) : Option Definition :=
  index.definitions.get? reference

def toList (index : DefinitionIndex) : List Definition :=
  index.definitions.values

def keys (index : DefinitionIndex) : List String :=
  index.definitions.keys

def size (index : DefinitionIndex) : Nat :=
  index.definitions.size

def isEmpty (index : DefinitionIndex) : Bool :=
  index.definitions.isEmpty

/-- The bodies under their reference keys, as templates see them. -/
def toJson (index : DefinitionIndex) : Json :=
  .object (index.definitions.entries.mapValues Definition.body)

/-- What is reported while the index of a contract is built. -/
def events (c : Contract) : List Event :=
  c.definitions.keys.map fun name => .indexingDefinition name (referenceKey name)

end DefinitionIndex

end ContractPress
