import ContractPress.Contract.Model
import ContractPress.Log.Traced

/-!
Operations in groups.

Each included operation belongs to the group that a field names: the field of the operation itself,
or else the field of its path. Groups stand in the order of their first members.
-/

namespace ContractPress

/-- An operation with its verb and the path it belongs to. -/
structure Operation where
  verb : String
  path : PathItem
  body : Json

/-- The text of a value that can name a group: a text, a number or a truth value. -/
def Json.groupName? : Json → Option String
  | .string s => some s
  | .integer n => some (toString n)
  | .float x => some (Json.floatText x)
  | .bool true => some "true"
  | .bool false => some "false"
  | .null | .array _ | .object _ => none

namespace Operation

/-- The group that the field names, at the operation or else at its path. -/
def group? (op : Operation) (field : String) : Option String :=
  (op.body.field? field >>= Json.groupName?) <|> (op.path.field? field >>= Json.groupName?)

/-- The operation's fields together with its verb, its path and all that the path holds. -/
def annotated (op : Operation) : Json :=
  .object (((op.body.fieldsOrEmpty.insert "operationString" (.string op.verb)).insert
    "pathString" (.string op.path.path)).insert "pathDef" op.path.annotated)

/-- The name of the operation's group with the operation, which the contract holds at a path. -/
def assign (field : String) (e : String × Operation) : Except Failure (String × Operation) :=
  match e.2.group? field with
  | some group => .ok (group, e.2)
  | none => .error (.grouping e.1 e.2.verb field)

end Operation

/-- The operations of a path under the listed verbs, a verb listed twice counting once. -/
def PathItem.operations (item : PathItem) (verbs : List String) : List Operation :=
  verbs.eraseDups.filterMap fun verb => (item.operation? verb).map fun body => ⟨verb, item, body⟩

/-- The operations of all paths under the listed verbs, each with the path that it is held at. -/
def Contract.operations (c : Contract) (verbs : List String) : List (String × Operation) :=
  c.paths.entries.flatMap fun e => (e.2.operations verbs).map fun op => (e.1, op)

abbrev RouteGroups := OrderedMap (List Operation)

namespace RouteGroups

/-- Adds an operation at the end of its group, which is opened if need be. -/
def add (groups : RouteGroups) (e : String × Operation) : RouteGroups :=
  groups.alter e.1 [] (· ++ [e.2])

def collect (assigned : List (String × Operation)) : RouteGroups :=
  assigned.foldl add .empty

/-- Groups the operations under the listed verbs by a field. -/
def ofContract (c : Contract) (field : String) (verbs : List String) :
    Except Failure RouteGroups := do
  return collect (← (c.operations verbs).mapM (Operation.assign field))

/-- One report for each path and each operation; none where an operation has no group. -/
def reports (c : Contract) (field : String) (verbs : List String) : List (Option Event) :=
  c.paths.entries.flatMap fun e =>
    some (.groupingPath e.1) :: (e.2.operations verbs).map fun op =>
      (op.group? field).map (.assignedOperation e.1 op.verb)

/-- What is reported while a contract's operations are grouped, up to a failure. -/
def events (c : Contract) (field : String) (verbs : List String) : List Event :=
  ((reports c field verbs).takeWhile Option.isSome).filterMap id

def traced (c : Contract) (field : String) (verbs : List String) : Traced RouteGroups :=
  ⟨events c field verbs, ofContract c field verbs⟩

end RouteGroups

end ContractPress
