import ContractPress.Template.Mention
import ContractPress.Template.Value.Arithmetic
import ContractPress.OrderedMap

/-!
Rendering a template.

A template is run on its tree. What leads out of the tree, the call of a value and the inclusion of
another template, goes through an `Engine`, and each engine calls one of a smaller allowance; so
every rendering ends.
-/

namespace ContractPress.Template

/-- The arguments of a call. -/
structure Arguments where
  positional : List Value
  keywords : Entries String Value

/-- A function that templates can call. It is given the means to call values in its turn. -/
abbrev Helper := (Value → Arguments → Except Fault Value) → Arguments → Except Fault Value

/-- What a rendering can reach: the helpers, the compiled templates and the context. -/
structure Surroundings where
  helpers : OrderedMap Helper
  templates : OrderedMap Tree
  context : Value

/-- The variables in sight, the innermost frame first, and how deep the frames lie already. -/
structure Scope where
  frames : List (Entries String Value)
  depth : Nat

namespace Scope

/-- How many frames may be open at once. -/
def limit : Nat := 500

/-- What a call and an inclusion count for, in frames. -/
def callCost : Nat := 4
def inclusionCost : Nat := 10

def height (s : Scope) : Nat :=
  s.depth + s.frames.length + 1

def push (s : Scope) (frame : Entries String Value) : Scope :=
  { s with frames := frame :: s.frames }

def store (s : Scope) (name : String) (value : Value) : Scope :=
  match s.frames with
  | [] => { s with frames := [[(name, value)]] }
  | frame :: outer => { s with frames := frame.insert name value :: outer }

/-- The value of a variable: from the frames, the context or the helpers. -/
def lookup? (s : Scope) (around : Surroundings) (name : String) : Option Value :=
  match s.frames.findSome? (·.get? name) with
  | some v => some v
  | none =>
    let inContext := match around.context with
      | .map entries => Value.valueAt? (.string name) entries
      | _ => none
    match inContext with
    | some v => some v
    | none => if around.helpers.contains name then some (.helper name) else none

end Scope

/-- The parts of a rendering that are not laid down by the tree at hand. -/
structure Engine where
  /-- Calls a value from frames of a given height. -/
  call : Nat → Value → Arguments → Except Fault Value
  /-- Runs another template in the same scope; gives nothing if there is no such template. -/
  embed : Scope → String → Except Fault (Option (String × Scope))

namespace Value

/-- The items that a loop runs over. -/
def iterate : Value → Except Fault (List Value)
  | .undefined | .none => .ok []
  | .list items => .ok items
  | .map entries => .ok (entries.map Prod.fst)
  | .string s => .ok (s.toList.map fun c => .string (String.singleton c))
  | _ => .error (.of .invalidOperation)

def field (container : Value) (name : String) : Except Fault Value :=
  match container with
  | .undefined => .error (.of .undefinedError)
  | .map entries => .ok ((valueAt? (.string name) entries).getD .undefined)
  | _ => .ok .undefined

def item (container key : Value) : Except Fault Value :=
  match container with
  | .undefined => .error (.of .undefinedError)
  | container => .ok ((item? container key).getD .undefined)

/-- The number of characters, items or entries. -/
def length : Value → Except Fault Nat
  | .string s => .ok s.length
  | .bytes octets => .ok octets.length
  | .list items => .ok items.length
  | .map entries => .ok entries.length
  | _ => .error (.of .invalidOperation)

def filter (name : String) (operand : Value) (args : Arguments) : Except Fault Value :=
  let alone := args.positional.isEmpty && args.keywords.isEmpty
  if name = "length" then
    if alone then (length operand).map fun n => .integer n else .error (.of .tooManyArguments)
  else if name = "items" then
    if !alone then .error (.of .tooManyArguments)
    else match operand with
      | .map entries => .ok (.list (entries.map fun e => .list [e.1, e.2]))
      | _ => .error (.of .invalidOperation)
  else .error (.of .unknownFilter)

def test (name : String) (operand : Value) (args : Arguments) : Except Fault Bool :=
  let alone := args.positional.isEmpty && args.keywords.isEmpty
  let answer : Option Bool := match name, operand with
    | "defined", .undefined => some false
    | "defined", _ => some true
    | "undefined", .undefined => some true
    | "undefined", _ => some false
    | "none", .none => some true
    | "none", _ => some false
    | _, _ => Option.none
  match answer with
  | some b => if alone then .ok b else .error (.of .tooManyArguments)
  | Option.none => .error (.of .unknownTest)

end Value

namespace Target

mutual

/-- Gives a value to the names of a target. -/
def assign (s : Scope) : Target → Value → Except Fault Scope
  | .name n, v => .ok (s.store n v)
  | .names targets, v =>
    match v with
    | .list items => assignAll s targets items
    | .map entries => assignAll s targets (entries.map Prod.fst)
    | _ => .error (.of .cannotUnpack)

def assignAll (s : Scope) : List Target → List Value → Except Fault Scope
  | [], [] => .ok s
  | t :: ts, v :: vs => do assignAll (← assign s t v) ts vs
  | _, _ => .error (.of .cannotUnpack)

end

end Target

/-- What a call is made to: a variable, a field of a value, or a value. -/
inductive Callee where
  | variable (name : String)
  | field (container : Value) (name : String)
  | value (value : Value)

section

variable (around : Surroundings) (engine : Engine)

/-- Calls what an expression names. -/
def invoke (s : Scope) (f : Callee) (args : Arguments) : Except Fault Value :=
  match f with
  | .variable name =>
    match s.lookup? around name with
    | some f => engine.call s.height f args
    | none => .error (.of .unknownFunction)
  | .field (.map entries) name =>
    match Value.valueAt? (.string name) entries with
    | some f => engine.call s.height f args
    | none => .error (.of .unknownMethod)
  | .field _ _ => .error (.of .unknownMethod)
  | .value f => engine.call s.height f args

mutual

def eval (s : Scope) : Expr → Except Fault Value
  | .constant c => .ok (.ofConstant c)
  | .variable name => .ok ((s.lookup? around name).getD .undefined)
  | .list items => do return .list (← evalItems s items)
  | .map entries => do return Value.mapOf (← evalEntries s entries)
  | .negate e => do Value.negate (← eval s e)
  | .not e => do return .bool !(← eval s e).isTrue
  | .binary op a b => do
    let x ← eval s a
    let y ← eval s b
    Value.operate op x y
  | .both a b => do
    let x ← eval s a
    if x.isTrue then eval s b else return x
  | .either a b => do
    let x ← eval s a
    if x.isTrue then return x else eval s b
  | .choice test yes no => do
    if (← eval s test).isTrue then eval s yes
    else match no with
      | some no => eval s no
      | none => return .undefined
  | .attribute e name => do (← eval s e).field name
  | .item e key => do
    let container ← eval s e
    container.item (← eval s key)
  | .filter name e args => do
    let operand ← eval s e
    operand.filter name (← evalArguments s args)
  | .test name e args => do
    let operand ← eval s e
    return .bool (← operand.test name (← evalArguments s args))
  | .call (.variable name) args => do
    invoke around engine s (.variable name) (← evalArguments s args)
  | .call (.attribute e name) args => do
    let container ← eval s e
    invoke around engine s (.field container name) (← evalArguments s args)
  | .call callee args => do
    let f ← eval s callee
    invoke around engine s (.value f) (← evalArguments s args)

def evalItems (s : Scope) : List Expr → Except Fault (List Value)
  | [] => .ok []
  | e :: rest => do
    let v ← eval s e
    return v :: (← evalItems s rest)

def evalEntries (s : Scope) : List (Expr × Expr) → Except Fault (List (Value × Value))
  | [] => .ok []
  | (k, e) :: rest => do
    let key ← eval s k
    let v ← eval s e
    return (key, v) :: (← evalEntries s rest)

def evalArguments (s : Scope) : List (Option String × Expr) → Except Fault Arguments
  | [] => .ok ⟨[], []⟩
  | (name, e) :: rest => do
    let v ← eval s e
    let args ← evalArguments s rest
    match name with
    | some name =>
      if args.keywords.contains name then return args
      else return { args with keywords := (name, v) :: args.keywords }
    | none => return { args with positional := v :: args.positional }

end

def evalCallee (s : Scope) : Expr → Except Fault Callee
  | .variable name => .ok (.variable name)
  | .attribute e name => do return .field (← eval around engine s e) name
  | e => do return .value (← eval around engine s e)

/-- The body of a call block as a value: with the variables it mentions, as they are now. -/
def capture (s : Scope) (parameters : List (String × Option Expr)) (body : List Statement) :
    Value :=
  let names := (defaultMentions parameters ++ bodyMentions body).eraseDups.filter (· ≠ "caller")
  .block parameters body (names.map fun name => (name, (s.lookup? around name).getD .undefined))

/-- Runs another template by name, or the first that exists of several. -/
def embedFirst (s : Scope) (optional : Bool) : List Value → Except Fault (String × Scope)
  | [] => if optional then .ok ("", s) else .error (.of .templateNotFound)
  | v :: rest =>
    match v with
    | .string name =>
      match engine.embed s name with
      | .ok (some r) => .ok r
      | .ok none => embedFirst s optional rest
      | .error fault => .error fault
    | _ => .error (.of .invalidOperation)

mutual

def run (s : Scope) : Statement → Except Fault (String × Scope)
  | .text t => .ok (t, s)
  | .print e => do return ((← eval around engine s e).print, s)
  | .conditional test yes no => do
    if (← eval around engine s test).isTrue then runAll s yes else runAll s no
  | .loop target source filter body otherwise => do
    let items ← (← eval around engine s source).iterate
    if Scope.limit < s.height + 1 then throw (.of .invalidOperation)
    let items ← match filter with
      | some test => items.filterM fun v => do
        let inner ← target.assign (s.push []) v
        return (← eval around engine inner test).isTrue
      | none => pure items
    if items.isEmpty then runAll s otherwise
    else
      let (text, _) ← items.foldlM (fun (p : String × Scope) v => do
        let inner ← target.assign p.2 v
        let (t, inner) ← runAll inner body
        return (p.1 ++ t, inner)) ("", s.push [])
      return (text, s)
  | .assign target e => do return ("", ← target.assign s (← eval around engine s e))
  | .callBlock callee args parameters body => do
    let f ← evalCallee around engine s callee
    let args ← evalArguments around engine s args
    let caller := capture around s parameters body
    let v ← invoke around engine s f { args with keywords := args.keywords.insert "caller" caller }
    return (v.print, s)
  | .inclusion e optional => do
    match ← eval around engine s e with
    | .list names => embedFirst engine s optional names
    | name => embedFirst engine s optional [name]

def runAll (s : Scope) : List Statement → Except Fault (String × Scope)
  | [] => .ok ("", s)
  | st :: rest => do
    let (a, s) ← run s st
    let (b, s) ← runAll s rest
    return (a ++ b, s)

end

/-- Gives a value to each parameter of a block: from its place, from its name, or none. -/
def bindParameters (args : Arguments) :
    List (String × Option Expr) → List Value → Except Fault (Entries String Value)
  | [], [] => .ok []
  | [], _ :: _ => .error (.of .tooManyArguments)
  | (name, _) :: rest, values => do
    let named := args.keywords.get? name
    match values with
    | v :: values =>
      if named.isSome then throw (.of .tooManyArguments)
      return (name, v) :: (← bindParameters args rest values)
    | [] => return (name, named.getD Value.undefined) :: (← bindParameters args rest [])

/-- Gives the undefined parameters their defaults, the last one first. -/
def applyDefaults (s : Scope) : List (String × Option Expr) → Except Fault Scope
  | [] => .ok s
  | (name, fallback) :: rest => do
    let s ← applyDefaults s rest
    match (s.frames.findSome? (·.get? name) : Option Value), fallback with
    | some .undefined, some e => return s.store name (← eval around engine s e)
    | _, _ => return s

/-- Runs the body of a call block. -/
def callBlock (height : Nat) (parameters : List (String × Option Expr)) (body : List Statement)
    (captured : Entries String Value) (args : Arguments) : Except Fault Value := do
  if parameters.length < args.positional.length then throw (.of .tooManyArguments)
  let bound ← bindParameters args parameters args.positional
  let usesCaller := (bodyMentions body).contains "caller"
  let known := fun name => (parameters.any fun p => p.1 = name) || (usesCaller && name = "caller")
  if args.keywords.any fun k => !known k.1 then throw (.of .tooManyArguments)
  let bound :=
    if usesCaller then ("caller", (args.keywords.get? "caller").getD Value.undefined) :: bound
    else bound
  let s : Scope := ⟨[bound, captured], height + Scope.callCost⟩
  if Scope.limit < s.height then throw (.of .invalidOperation)
  let s ← applyDefaults around engine s parameters
  return .string (← runAll around engine s body).1

def callValue (height : Nat) (f : Value) (args : Arguments) : Except Fault Value :=
  match f with
  | .helper name =>
    match around.helpers.get? name with
    | some helper => helper (engine.call height) args
    | none => .error (.of .unknownFunction)
  | .block parameters body captured => callBlock around engine height parameters body captured args
  | _ => .error (.of .invalidOperation)

/-- Runs another template; a fault in it is one of the inclusion. -/
def embedTemplate (s : Scope) (name : String) : Except Fault (Option (String × Scope)) :=
  match around.templates.get? name with
  | none => .ok none
  | some tree =>
    let inner := { s with depth := s.depth + Scope.inclusionCost }
    if Scope.limit < inner.height then .error (.of .invalidOperation)
    else match runAll around engine inner tree with
      | .ok (text, after) => .ok (some (text, { after with depth := s.depth }))
      | .error _ => .error (.of .badInclude)

end

/-- An engine that calls and includes within an allowance. -/
def Engine.within (around : Surroundings) : Nat → Engine
  | 0 => ⟨fun _ _ _ => .error (.of .invalidOperation), fun _ _ => .error (.of .invalidOperation)⟩
  | n + 1 => ⟨callValue around (within around n), embedTemplate around (within around n)⟩

/-- Renders a template in a context. -/
def render (around : Surroundings) (tree : Tree) : Except Fault String := do
  return (← runAll around (Engine.within around Scope.limit) ⟨[[]], 0⟩ tree).1

end ContractPress.Template
