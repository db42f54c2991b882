import ContractPress.Template.Tree
import ContractPress.Json
import ContractPress.Text.Utf8

/-!
The values that templates compute with.
-/

namespace ContractPress.Template

inductive Value where
  | undefined
  | none
  | bool (value : Bool)
  | integer (value : Int)
  | float (value : Float)
  | string (value : String)
  | bytes (octets : List UInt8)
  | list (items : List Value)
  /-- Any values can be keys; entries stand in order of insertion. -/
  | map (entries : List (Value × Value))
  /-- A helper, under the name it is registered by. -/
  | helper (name : String)
  /-- The body of a call block, with the variables it uses from around it. -/
  | block (parameters : List (String × Option Expr)) (body : List Statement)
      (captured : List (String × Value))

instance : Inhabited Value :=
  ⟨.undefined⟩

/-- The kinds of values, in the order in which values of different kinds are sorted. -/
inductive ValueKind where
  | undefined
  | none
  | bool
  | number
  | string
  | bytes
  | list
  | map
  | plain
deriving Repr, DecidableEq

namespace ValueKind

def rank : ValueKind → Nat
  | .undefined => 0
  | .none => 1
  | .bool => 2
  | .number => 3
  | .string => 4
  | .bytes => 5
  | .list => 6
  | .map => 7
  | .plain => 8

end ValueKind

namespace Value

def kind : Value → ValueKind
  | .undefined => .undefined
  | .none => .none
  | .bool _ => .bool
  | .integer _ | .float _ => .number
  | .string _ => .string
  | .bytes _ => .bytes
  | .list _ => .list
  | .map _ => .map
  | .helper _ | .block .. => .plain

/-- Whether there is no value: undefined or none. -/
def isAbsent : Value → Bool
  | .undefined | .none => true
  | _ => false

/-- Whether the value counts as true in a condition. -/
def isTrue : Value → Bool
  | .undefined | .none => false
  | .bool b => b
  | .integer n => n ≠ 0
  | .float x => x != 0
  | .string s => s ≠ ""
  | .bytes octets => !octets.isEmpty
  | .list items => !items.isEmpty
  | .map entries => !entries.isEmpty
  | .helper _ | .block .. => true

/-- The text of a text, or of octets that are one in UTF-8. -/
def asText? : Value → Option String
  | .string s => some s
  | .bytes octets => Text.ofUtf8? octets
  | _ => Option.none

mutual

def ofJson : Json → Value
  | .null => .none
  | .bool b => .bool b
  | .integer n => .integer n
  | .float x => .float x
  | .string s => .string s
  | .array items => .list (ofJsonItems items)
  | .object fields => .map (ofJsonFields fields)

def ofJsonItems : List Json → List Value
  | [] => []
  | item :: rest => ofJson item :: ofJsonItems rest

def ofJsonFields : List (String × Json) → List (Value × Value)
  | [] => []
  | (name, value) :: rest => (.string name, ofJson value) :: ofJsonFields rest

end

def ofConstant : Constant → Value
  | .none => .none
  | .bool b => .bool b
  | .integer n => .integer n
  | .float x => .float x
  | .string s => .string s

end Value

end ContractPress.Template
