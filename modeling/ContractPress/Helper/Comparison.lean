import ContractPress.Template.Fault
import ContractPress.Template.Value.Equality

/-!
The comparison operators that templates hand to helpers as texts.
-/

namespace ContractPress

open Template

namespace Comparison

/-- A number as a floating-point number. -/
def number? : Value → Option Float
  | .integer n => some (Decimal.ofInt n)
  | .float x => some x
  | _ => none

def orderFloats (x y : Float) : Option Ordering :=
  if x < y then some .lt
  else if y < x then some .gt
  else if x == y then some .eq
  else none

/-- The order of two numbers or of two texts; nothing else is ordered. -/
def ordering (l r : Value) : Option Ordering :=
  match number? l, number? r with
  | some x, some y => orderFloats x y
  | _, _ =>
    match l.asText?, r.asText? with
    | some s, some t => some (compare s t)
    | _, _ => none

/-- The name of a value's type, as the operator `typeof` knows it. -/
def typeName (v : Value) : String :=
  match v.kind with
  | .undefined => "undefined"
  | .bool => "boolean"
  | .number => "number"
  | .string => "string"
  | .none | .bytes | .list | .map | .plain => "object"

/-- Whether `l operator r` holds. An operator outside the eight is refused. -/
def evaluate (l : Value) (operator : String) (r : Value) : Except Fault Bool :=
  match operator with
  | "==" | "===" => .ok (Value.eq l r)
  | "!=" => .ok (!Value.eq l r)
  | "<" => .ok (ordering l r = some .lt)
  | ">" => .ok (ordering l r = some .gt)
  | "<=" => .ok (ordering l r = some .lt || ordering l r = some .eq)
  | ">=" => .ok (ordering l r = some .gt || ordering l r = some .eq)
  | "typeof" => .ok (r.asText? = some (typeName l))
  | other => .error ⟨.invalidOperation, some ("unknown compare operator: " ++ other)⟩

end Comparison

end ContractPress
