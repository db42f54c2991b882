import ContractPress.Template.Fault
import ContractPress.Template.Value.Order

/-!
The operators of templates.

Whole numbers have 128 bits; an operation that leaves that range fails. A number next to a
floating-point number becomes one itself, and a truth value counts as zero or one.
-/

namespace ContractPress.Template.Value

/-- Two operands brought to a common kind. -/
inductive Operands where
  | integers (a b : Int)
  | floats (a b : Float)
  | texts (a b : String)

def asFloat? : Value → Option Float
  | .bool b => some (Decimal.ofInt (boolNumber b))
  | .integer n => some (Decimal.ofInt n)
  | .float x => some x
  | _ => Option.none

/-- A whole number of 128 bits with a sign. -/
def asInteger? : Value → Option Int
  | .bool b => some (boolNumber b)
  | .integer n => if n < Nat.pow 2 127 then some n else Option.none
  | .float x => Decimal.toInt? x
  | _ => Option.none

def operands? : Value → Value → Option Operands
  | .string a, .string b => some (.texts a b)
  | .float a, b => (asFloat? b).map (.floats a)
  | a, .float b => (asFloat? a).map (.floats · b)
  | a, b => do return .integers (← asInteger? a) (← asInteger? b)

private def invalid {α : Type} : Except Fault α :=
  .error (.of .invalidOperation)

def integerResult (n : Int) : Except Fault Value :=
  if -(Nat.pow 2 127 : Int) ≤ n && n < Nat.pow 2 127 then .ok (.integer n) else invalid

def add (a b : Value) : Except Fault Value :=
  match a, b with
  | .list xs, .list ys => .ok (.list (xs ++ ys))
  | a, b => match operands? a b with
    | some (.integers x y) => integerResult (x + y)
    | some (.floats x y) => .ok (.float (x + y))
    | some (.texts s t) => .ok (.string (s ++ t))
    | Option.none => invalid

def sub (a b : Value) : Except Fault Value :=
  match operands? a b with
  | some (.integers x y) => integerResult (x - y)
  | some (.floats x y) => .ok (.float (x - y))
  | _ => invalid

def mul (a b : Value) : Except Fault Value :=
  match operands? a b with
  | some (.integers x y) => integerResult (x * y)
  | some (.floats x y) => .ok (.float (x * y))
  | _ => invalid

/-- A quotient is always a floating-point number; a division by zero is infinite. -/
def div (a b : Value) : Except Fault Value :=
  match asFloat? a, asFloat? b with
  | some x, some y => .ok (.float (x / y))
  | _, _ => invalid

def floorDiv (a b : Value) : Except Fault Value :=
  match operands? a b with
  | some (.integers x y) => if y = 0 then invalid else integerResult (x / y)
  | some (.floats x y) =>
    let q := x / y
    let whole := if q < 0 then q.ceil else q.floor
    let r := x - y * whole
    .ok (.float (if r < 0 then (if 0 < y then whole - 1 else whole + 1) else whole))
  | _ => invalid

def rem (a b : Value) : Except Fault Value :=
  match operands? a b with
  | some (.integers x y) => if y = 0 then invalid else integerResult (x % y)
  | some (.floats x y) =>
    let q := x / y
    .ok (.float (x - y * (if q < 0 then q.ceil else q.floor)))
  | _ => invalid

def pow (a b : Value) : Except Fault Value :=
  match operands? a b with
  | some (.integers x y) =>
    if y < 0 || Nat.pow 2 32 ≤ y then invalid
    else if x.natAbs ≤ 1 then integerResult (if y = 0 then 1 else if y % 2 = 0 then x * x else x)
    else if 127 < y then invalid
    else integerResult (Int.pow x y.toNat)
  | some (.floats x y) => .ok (.float (Float.pow x y))
  | _ => invalid

def negate : Value → Except Fault Value
  | .integer n => integerResult (-n)
  | .float x => .ok (.float (-x))
  | _ => invalid

/-- Whether the text has the other one as a part. -/
def hasPart (part : List Char) : List Char → Bool
  | [] => part.isEmpty
  | c :: rest => part.isPrefixOf (c :: rest) || hasPart part rest

def contains (container value : Value) : Except Fault Value :=
  match container with
  | .undefined => .ok (.bool false)
  | .list items => .ok (.bool (items.any fun item => eq item value))
  | .map entries => .ok (.bool (valueAt? value entries).isSome)
  | .helper _ | .block .. => .ok (.bool false)
  | container => match container.asText? with
    | some s => .ok (.bool (hasPart (value.asText?.getD value.print).toList s.toList))
    | Option.none => invalid

def operate (op : BinaryOp) (a b : Value) : Except Fault Value :=
  match op with
  | .add => add a b
  | .sub => sub a b
  | .mul => mul a b
  | .div => div a b
  | .floorDiv => floorDiv a b
  | .rem => rem a b
  | .pow => pow a b
  | .concat => .ok (.string (a.print ++ b.print))
  | .equal => .ok (.bool (eq a b))
  | .notEqual => .ok (.bool (!eq a b))
  | .less => .ok (.bool (order a b = .lt))
  | .lessOrEqual => .ok (.bool (order a b ≠ .gt))
  | .greater => .ok (.bool (order a b = .gt))
  | .greaterOrEqual => .ok (.bool (order a b ≠ .lt))
  | .isIn => contains b a

end ContractPress.Template.Value
