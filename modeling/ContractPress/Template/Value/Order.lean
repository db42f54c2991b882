import ContractPress.Template.Value.Printer
import ContractPress.Template.Value.Equality

/-!
The order of values: first by kind, then within the kind.
-/

namespace ContractPress.Template.Value

/-- The place of a floating-point number in the total order of all of them. -/
def floatRank (x : Float) : Int :=
  let bits := x.toBits
  let magnitude : Int := ((bits <<< 1) >>> 1).toNat
  if bits >>> 63 = 1 then -magnitude - 1 else magnitude

/-- The order of two numbers; a whole number that no floating-point number equals has no place among
those and counts as equal. -/
def compareNumbers : Value → Value → Ordering
  | .integer a, .integer b => compare a b
  | .float a, .float b => compare (floatRank a) (floatRank b)
  | .integer n, .float x =>
    if isExact n then compare (floatRank (Decimal.ofInt n)) (floatRank x) else .eq
  | .float x, .integer n =>
    if isExact n then compare (floatRank x) (floatRank (Decimal.ofInt n)) else .eq
  | _, _ => .eq

def compareOctets : List UInt8 → List UInt8 → Ordering
  | [], [] => .eq
  | [], _ :: _ => .lt
  | _ :: _, [] => .gt
  | a :: as, b :: bs => (compare a.toNat b.toNat).then (compareOctets as bs)

def compareAtoms (a b : Value) : Ordering :=
  match a, b with
  | .bool x, .bool y => compare (boolNumber x) (boolNumber y)
  | .string s, .string t => compareOctets (Text.toUtf8 s) (Text.toUtf8 t)
  | .bytes s, .bytes t => compareOctets s t
  | .helper _, .helper _ | .helper _, .block .. | .block .., .helper _ =>
    compareOctets (Text.toUtf8 a.print) (Text.toUtf8 b.print)
  | a, b =>
    if a.kind = .number && b.kind = .number then compareNumbers a b
    else compare a.kind.rank b.kind.rank

mutual

def order : Value → Value → Ordering
  | .list xs, .list ys => orderItems xs ys
  | .map xs, .map ys => orderEntries xs ys
  | a, b => compareAtoms a b

def orderItems : List Value → List Value → Ordering
  | [], [] => .eq
  | [], _ :: _ => .lt
  | _ :: _, [] => .gt
  | x :: xs, y :: ys => (order x y).then (orderItems xs ys)

def orderEntries : List (Value × Value) → List (Value × Value) → Ordering
  | [], [] => .eq
  | [], _ :: _ => .lt
  | _ :: _, [] => .gt
  | (k, v) :: xs, (k', v') :: ys => ((order k k').then (order v v')).then (orderEntries xs ys)

end

end ContractPress.Template.Value
