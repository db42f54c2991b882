import ContractPress.Contract.Model
import ContractPress.Failure

/-!
Reading a contract from a text.

Only the outermost shape is looked at: a mapping with a mapping `paths` and perhaps a mapping
`definitions`.
-/

namespace ContractPress

namespace Json

/-- The name of a number that is not finite. -/
def unboundedName (x : Float) : String :=
  if x.isNaN then ".nan" else if x < 0 then "-.inf" else ".inf"

/-- The text under which a key of a mapping becomes the name of a field. -/
def fieldName : Yaml.Value → Except ParseFault String
  | .string s => .ok s
  | .bool true => .ok "true"
  | .bool false => .ok "false"
  | .integer n => .ok (toString n)
  | .float x => .ok (if x.isFinite then Decimal.write .key x else unboundedName x)
  | .null => .ok "null"
  | .tagged _ value => fieldName value
  | .sequence items => .error (.unsupportedKey (.sequence items))
  | .mapping entries => .error (.unsupportedKey (.mapping entries))

mutual

/-- The value without its tags, keys turned into names. Of keys with one name the first gives the
place and the last the value. -/
def ofYaml : Yaml.Value → Except ParseFault Json
  | .null => .ok .null
  | .bool b => .ok (.bool b)
  | .integer n => .ok (.integer n)
  | .float x => if x.isFinite then .ok (.float x) else .error (.unrepresentable (unboundedName x))
  | .string s => .ok (.string s)
  | .sequence items => do return .array (← itemsOfYaml items)
  | .mapping entries => do return .object (Entries.ofList (← fieldsOfYaml entries))
  | .tagged _ value => ofYaml value

def itemsOfYaml : List Yaml.Value → Except ParseFault (List Json)
  | [] => .ok []
  | item :: rest => do return (← ofYaml item) :: (← itemsOfYaml rest)

def fieldsOfYaml : List (Yaml.Value × Yaml.Value) → Except ParseFault (List (String × Json))
  | [] => .ok []
  | (key, value) :: rest => do
    let name ← fieldName key
    let value ← ofYaml value
    return (name, value) :: (← fieldsOfYaml rest)

end

end Json

namespace Contract

def pathsOf (fields : Entries String Json) : Except ParseFault (OrderedMap PathItem) :=
  match fields.get? "paths" with
  | some (.object items) =>
    .ok (.ofList (items.map fun e => (e.1, ⟨e.1, .ofList e.2.fieldsOrEmpty⟩)))
  | some _ => .error .pathsNotMapping
  | none => .error .pathsMissing

def definitionsOf (fields : Entries String Json) : Except ParseFault (OrderedMap Json) :=
  match fields.get? "definitions" with
  | some (.object bodies) => .ok (.ofList bodies)
  | some .null | none => .ok .empty
  | some _ => .error .definitionsNotMapping

def ofDocument (document : Json) : Except ParseFault Contract := do
  match document with
  | .object fields =>
    let paths ← pathsOf fields
    let definitions ← definitionsOf fields
    return ⟨document, paths, definitions⟩
  | _ => throw .rootNotMapping

def ofYaml (value : Yaml.Value) : Except ParseFault Contract := do
  ofDocument (← Json.ofYaml value)

/-- Reads a contract from YAML text, of which JSON text is a special case. -/
def parse (text : String) : Except Failure Contract :=
  match Yaml.Value.ofText text with
  | .ok value => (ofYaml value).mapError .parse
  | .error _ => .error (.parse .malformed)

end Contract

end ContractPress
