import ContractPress.Helper.Comparison
import ContractPress.Text.Case
import ContractPress.Text.Capitals

/-!
The helpers themselves, apart from the way templates call them.

A helper is called with a block in two versions. A branching helper chooses a `Branch`, one version
and the context for it, and runs that one (`Choice.run`); a text helper runs the primary version and
changes its text (`Change.run`). The versions run in any monad, so that what a helper runs can be
recorded.
-/

namespace ContractPress

open Template

/-- The two versions of the block that a helper is called with. -/
structure Blocks (m : Type → Type) where
  primary : Value → m String
  alternate : Value → m String

/-- One version of a block, with the context to run it in. -/
inductive Branch where
  | primary (context : Value)
  | alternate (context : Value)

def Blocks.run {m : Type → Type} (blocks : Blocks m) : Branch → m String
  | .primary context => blocks.primary context
  | .alternate context => blocks.alternate context

/-- The primary version if the condition holds, otherwise the alternate one. -/
def Branch.of (condition : Bool) (context : Value) : Branch :=
  if condition then .primary context else .alternate context

namespace Helper

/-- What a container holds under a key, unless it is undefined or none. -/
def present? (container key : Value) : Option Value :=
  (container.item? key).filter fun v => !v.isAbsent

/-- Whether a value is worth a context: all are but undefined, none, false, zero and the empty text.
-/
def isPresent (v : Value) : Bool :=
  match v.kind with
  | .undefined | .none => false
  | .bool | .number | .string => v.isTrue
  | .bytes | .list | .map | .plain => true

def arrayContains (array value this : Value) : Branch :=
  match array with
  | .list items => .of (items.any fun item => Value.eq item value) this
  | _ => .alternate this

def compare (l : Value) (operator : String) (r this : Value) : Except Fault Branch := do
  return .of (← Comparison.evaluate l operator r) this

/-- The entries of a map but those under a name. -/
def entriesBut (name : String) (entries : List (Value × Value)) : List (Value × Value) :=
  (entries.filter fun e => e.1.asText? ≠ some name).map fun e =>
    (e.1, (Value.valueAt? e.1 entries).getD .undefined)

/-- The context with the value under `name` also under `newName`. -/
def property (context : Value) (name newName : String) : Branch :=
  match present? context (.string name) with
  | none => .alternate context
  | some value =>
    let entries := match context with
      | .map entries => entriesBut newName entries
      | _ => []
    .primary (Value.mapOf (entries ++ [(.string newName, value)]))

def withContext (value : Value) : Branch :=
  if isPresent value then .primary value else .alternate (.map [])

/-- The reference that a property carries: it is one, or it has one under `$ref`. -/
def reference? (property : Value) : Option Value :=
  if property.asText?.isSome then some property
  else match property with
    | .map _ => (present? property (.string "$ref")).filter fun v => v.asText?.isSome
    | _ => none

def definition? (property definitions : Value) : Option Value :=
  (reference? property >>= present? definitions).filter Value.isTrue

def withDefinition (property definitions this : Value) : Branch :=
  match definition? property definitions with
  | some definition => .primary definition
  | none => .alternate this

/-- A branching helper with its arguments. -/
inductive Choice where
  | arrayContains (array value this : Value)
  | compare (l : Value) (operator : String) (r this : Value)
  | property (context : Value) (name newName : String)
  | withContext (value : Value)
  | withDefinition (carrier definitions this : Value)

/-- A helper that changes the text of its block, with its argument. -/
inductive Change where
  | lowerFirst
  | upperFirst
  | lowercase
  | uppercase
  | capsplit (joiner : String)

/-- The version of the block that is chosen. -/
def Choice.branch : Choice → Except Fault Branch
  | .arrayContains array value this => .ok (Helper.arrayContains array value this)
  | .compare l operator r this => Helper.compare l operator r this
  | .property context name newName => .ok (Helper.property context name newName)
  | .withContext value => .ok (Helper.withContext value)
  | .withDefinition carrier definitions this =>
    .ok (Helper.withDefinition carrier definitions this)

section

variable {m : Type → Type} [Monad m]

def lowerFirst (blocks : Blocks m) : m String :=
  Text.lowerFirst <$> blocks.primary .undefined

def upperFirst (blocks : Blocks m) : m String :=
  Text.upperFirst <$> blocks.primary .undefined

def lowercase (blocks : Blocks m) : m String :=
  Text.lowercase <$> blocks.primary .undefined

def uppercase (blocks : Blocks m) : m String :=
  Text.uppercase <$> blocks.primary .undefined

def capsplit (joiner : String) (blocks : Blocks m) : m String :=
  (Text.splitOnCapitals · joiner) <$> blocks.primary .undefined

def Choice.run [MonadLiftT (Except Fault) m] (choice : Choice) (blocks : Blocks m) : m String := do
  blocks.run (← choice.branch)

def Change.run (change : Change) (blocks : Blocks m) : m String :=
  match change with
  | .lowerFirst => Helper.lowerFirst blocks
  | .upperFirst => Helper.upperFirst blocks
  | .lowercase => Helper.lowercase blocks
  | .uppercase => Helper.uppercase blocks
  | .capsplit joiner => Helper.capsplit joiner blocks

end

end Helper

end ContractPress
