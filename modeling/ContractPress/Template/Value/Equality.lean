import ContractPress.Template.Value
import ContractPress.Decimal.Nearest

/-!
Equality of values, and finding the value of a key.

Truth values are equal to the numbers one and zero, whole numbers to floating-point numbers of the
same size. A map is looked through for a key by equality alone if it has a single entry; otherwise
the key has to be of the same make as well, so that a truth value does not find a number.
-/

namespace ContractPress.Template.Value

/-- The largest number of the width that a whole number is stored in. -/
def widthBound (n : Int) : Int :=
  if n < Nat.pow 2 64 then Nat.pow 2 64 - 1
  else if n < Nat.pow 2 127 then Nat.pow 2 127 - 1
  else Nat.pow 2 128 - 1

/-- Whether a whole number survives the conversion to a floating-point number. -/
def isExact (n : Int) : Bool :=
  match Decimal.toInt? (Decimal.ofInt n) with
  | some m => min m (widthBound n) = n
  | Option.none => false

def integerEqFloat (n : Int) (x : Float) : Bool :=
  isExact n && Decimal.ofInt n == x

def boolNumber (b : Bool) : Int :=
  if b then 1 else 0

/-- Equality of values without parts. -/
def eqAtom : Value → Value → Bool
  | .undefined, .undefined => true
  | .none, .none => true
  | .bool a, .bool b => a = b
  | .bool a, .integer n => boolNumber a = n
  | .integer n, .bool b => n = boolNumber b
  | .bool a, .float x => integerEqFloat (boolNumber a) x
  | .float x, .bool b => integerEqFloat (boolNumber b) x
  | .integer a, .integer b => a = b
  | .integer n, .float x => integerEqFloat n x
  | .float x, .integer n => integerEqFloat n x
  | .float a, .float b => a == b
  | .string a, .string b => a = b
  | .bytes a, .bytes b => a = b
  | .helper a, .helper b => a = b
  | .block .., .block .. => true
  | _, _ => false

/-- Whether two values without parts are equal and of one make. -/
def matchesAtom (a b : Value) : Bool :=
  (a.kind = b.kind) && eqAtom a b

mutual

/-- Equality as templates see it. The order of a map's entries does not count. -/
def eq : Value → Value → Bool
  | .list xs, .list ys => eqItems xs ys
  | .map xs, .map ys => xs.length = ys.length && eqEntries xs ys
  | a, b => eqAtom a b

def eqItems : List Value → List Value → Bool
  | [], [] => true
  | x :: xs, y :: ys => eq x y && eqItems xs ys
  | _, _ => false

/-- Whether each entry has an equal one under its key. -/
def eqEntries : List (Value × Value) → List (Value × Value) → Bool
  | [], _ => true
  | (k, v) :: rest, ys =>
    (match ys with
      | [e] => eq k e.1 && eq v e.2
      | ys => match ys.find? fun e => keyMatches k e.1 with
        | some e => eq v e.2
        | Option.none => false) && eqEntries rest ys

/-- Whether a key among several is the one looked for. -/
def keyMatches : Value → Value → Bool
  | .list xs, .list ys => keysMatch xs ys
  | .map xs, .map ys => entriesMatch xs ys
  | a, b => matchesAtom a b

def keysMatch : List Value → List Value → Bool
  | [], [] => true
  | x :: xs, y :: ys => keyMatches x y && keysMatch xs ys
  | _, _ => false

def entriesMatch : List (Value × Value) → List (Value × Value) → Bool
  | [], [] => true
  | (k, v) :: xs, (k', v') :: ys => keyMatches k k' && keyMatches v v' && entriesMatch xs ys
  | _, _ => false

end

instance : BEq Value :=
  ⟨eq⟩

/-- The value of a key. -/
def valueAt? (key : Value) (entries : List (Value × Value)) : Option Value :=
  match entries with
  | [e] => if eq key e.1 then some e.2 else Option.none
  | entries => (entries.find? fun e => keyMatches key e.1).map Prod.snd

/-- Gives a key a value: in its old place if it has one, at the end otherwise. -/
def insertEntry (key value : Value) : List (Value × Value) → List (Value × Value)
  | [] => [(key, value)]
  | (k, v) :: rest =>
    if keyMatches key k then (k, value) :: rest else (k, v) :: insertEntry key value rest

/-- The map that a list of pairs describes. -/
def mapOf (pairs : List (Value × Value)) : Value :=
  .map (pairs.foldl (fun acc e => insertEntry e.1 e.2 acc) [])

/-- The whole number that an index is. -/
def asIndex? : Value → Option Int
  | .bool b => some (boolNumber b)
  | .integer n => some n
  | .float x => Decimal.toInt? x
  | _ => Option.none

/-- The element at an index; a negative index counts from the end. -/
def atIndex? {α : Type} (items : List α) (key : Value) : Option α :=
  match asIndex? key with
  | some n => if 0 ≤ n then items[n.toNat]? else
      if n.natAbs ≤ items.length then items[items.length - n.natAbs]? else Option.none
  | Option.none => Option.none

/-- The item of a container under a key or at an index. -/
def item? (container key : Value) : Option Value :=
  match container with
  | .map entries => valueAt? key entries
  | .list items => atIndex? items key
  | .string s => (atIndex? s.toList key).map fun c => .string (String.singleton c)
  | .bytes octets => (atIndex? octets key).map fun o => .integer o.toNat
  | _ => Option.none

end ContractPress.Template.Value
