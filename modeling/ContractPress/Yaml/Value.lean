import ContractPress.Yaml.Node
import ContractPress.Decimal.Numeral

/-!
The values of a YAML document under the core schema.

A plain scalar is null, a truth value or a number if it is spelled like one, and a text otherwise; a
quoted scalar is a text. Tags of the core schema decide for themselves, other tags are kept.
-/

namespace ContractPress.Yaml

inductive Value where
  | null
  | bool (value : Bool)
  | integer (value : Int)
  | float (value : Float)
  | string (value : String)
  | sequence (items : List Value)
  | mapping (entries : List (Value × Value))
  | tagged (tag : String) (value : Value)
deriving Inhabited, Repr

namespace Scalar

def isNull (s : String) : Bool :=
  s = "~" || s = "null" || s = "Null" || s = "NULL"

def bool? (s : String) : Option Bool :=
  if s = "true" || s = "True" || s = "TRUE" then some true
  else if s = "false" || s = "False" || s = "FALSE" then some false
  else none

/-- Several digits of which the first is a zero: a text, not a number. -/
def isPadded (cs : List Char) : Bool :=
  match cs with
  | '+' :: '0' :: d :: rest | '-' :: '0' :: d :: rest | '0' :: d :: rest =>
    (d :: rest).all Char.isDigit
  | _ => false

private def magnitude? (padded : Bool) (cs : List Char) : Option Nat :=
  let based := match cs with
    | '0' :: 'x' :: rest => Decimal.natural? 16 rest
    | '0' :: 'o' :: rest => Decimal.natural? 8 rest
    | '0' :: 'b' :: rest => Decimal.natural? 2 rest
    | _ => none
  match based with
  | some n => some n
  | none => if padded then none else Decimal.natural? 10 cs

/-- A whole number of at most 128 bits, in decimal or with the mark of another base. -/
def integer? (cs : List Char) : Option Int :=
  match cs with
  | '-' :: rest =>
    match magnitude? (isPadded cs) rest with
    | some n => if n ≤ Nat.pow 2 127 then some (-(n : Int)) else none
    | none => none
  | _ =>
    let rest := match cs with
      | '+' :: rest => rest
      | _ => cs
    match magnitude? (isPadded cs) rest with
    | some n => if n < Nat.pow 2 128 then some n else none
    | none => none

/-- A number with a point or an exponent, or one of the names of the numbers that are not finite. -/
def float? (cs : List Char) : Option Float :=
  let s := String.ofList (match cs with
    | '+' :: rest => rest
    | _ => cs)
  if s = ".inf" || s = ".Inf" || s = ".INF" then some (1.0 / 0.0)
  else if s = "-.inf" || s = "-.Inf" || s = "-.INF" then some (-1.0 / 0.0)
  else if cs.head? ≠ some '+' && (s = ".nan" || s = ".NaN" || s = ".NAN") then some (0.0 / 0.0)
  else if (cs.head? = some '+') && (s.startsWith "+" || s.startsWith "-") then none
  else match Decimal.readFloat? s.toList with
    | some x => if x.isFinite then some x else none
    | none => none

/-- A whole number has 64 bits, with a sign or without one. -/
def fits (n : Int) : Bool :=
  -(Nat.pow 2 63 : Int) ≤ n && n < Nat.pow 2 64

def integerValue (n : Int) : Except Fault Value :=
  if fits n then .ok (.integer n) else .error .oversizedInteger

/-- A plain scalar without a tag. -/
def plain (s : String) : Except Fault Value :=
  if s = "" || isNull s then .ok .null
  else match bool? s with
    | some b => .ok (.bool b)
    | none =>
      match integer? s.toList with
      | some n => integerValue n
      | none =>
        match if isPadded s.toList then none else float? s.toList with
        | some x => .ok (.float x)
        | none => .ok (.string s)

private def required (value : Option Value) : Except Fault Value :=
  match value with
  | some v => .ok v
  | none => .error .tagMismatch

/-- A scalar with the tag of a kind of scalar. -/
def tagged (tag : String) (s : String) : Except Fault Value :=
  if tag = "tag:yaml.org,2002:bool" then required ((bool? s).map .bool)
  else if tag = "tag:yaml.org,2002:int" then
    match integer? s.toList with
    | some n => integerValue n
    | none => .error .tagMismatch
  else if tag = "tag:yaml.org,2002:float" then required ((float? s.toList).map .float)
  else if tag = "tag:yaml.org,2002:null" then
    if isNull s then .ok .null else .error .tagMismatch
  else .ok (.string s)

end Scalar

namespace Value

mutual

/-- Whether two values are equal, entry by entry and tag by tag. -/
def identical : Value → Value → Bool
  | .null, .null => true
  | .bool a, .bool b => a = b
  | .integer a, .integer b => a = b
  | .float a, .float b => a = b
  | .string a, .string b => a = b
  | .sequence xs, .sequence ys => identicalItems xs ys
  | .mapping xs, .mapping ys => identicalEntries xs ys
  | .tagged s a, .tagged t b => s = t && identical a b
  | _, _ => false

def identicalItems : List Value → List Value → Bool
  | [], [] => true
  | x :: xs, y :: ys => identical x y && identicalItems xs ys
  | _, _ => false

def identicalEntries : List (Value × Value) → List (Value × Value) → Bool
  | [], [] => true
  | (k, v) :: xs, (l, w) :: ys => identical k l && identical v w && identicalEntries xs ys
  | _, _ => false

end

mutual

theorem identical_iff (v w : Value) : identical v w = true ↔ v = w := by
  cases v with
  | null | bool | integer | float | string => cases w <;> simp [identical]
  | sequence items =>
    cases w with
    | sequence items' => rw [identical, identicalItems_iff, sequence.injEq]
    | _ => simp [identical]
  | mapping entries =>
    cases w with
    | mapping entries' => rw [identical, identicalEntries_iff, mapping.injEq]
    | _ => simp [identical]
  | tagged tag value =>
    cases w with
    | tagged tag' value' => simp [identical, identical_iff value value']
    | _ => simp [identical]

theorem identicalItems_iff (xs ys : List Value) : identicalItems xs ys = true ↔ xs = ys := by
  cases xs with
  | nil => cases ys <;> simp [identicalItems]
  | cons x xs =>
    cases ys with
    | nil => simp [identicalItems]
    | cons y ys => simp [identicalItems, identical_iff x y, identicalItems_iff xs ys]

theorem identicalEntries_iff (xs ys : List (Value × Value)) :
    identicalEntries xs ys = true ↔ xs = ys := by
  cases xs with
  | nil => cases ys <;> simp [identicalEntries]
  | cons e xs =>
    obtain ⟨k, v⟩ := e
    cases ys with
    | nil => simp [identicalEntries]
    | cons e' ys =>
      obtain ⟨l, w⟩ := e'
      simp [identicalEntries, identical_iff k l, identical_iff v w, identicalEntries_iff xs ys]

end

instance : DecidableEq Value := fun v w =>
  decidable_of_iff _ (identical_iff v w)

mutual

/-- Whether two values are the same key. A number that is not a number is the same as itself, and
the order of entries does not count. -/
def same : Value → Value → Bool
  | .null, .null => true
  | .bool a, .bool b => a == b
  | .integer a, .integer b => a == b
  | .float a, .float b => a == b || (a.isNaN && b.isNaN)
  | .string a, .string b => a == b
  | .sequence xs, .sequence ys => sameItems xs ys
  | .mapping xs, .mapping ys => xs.length == ys.length && sameEntries xs ys
  | .tagged s a, .tagged t b => s == t && same a b
  | _, _ => false

def sameItems : List Value → List Value → Bool
  | [], [] => true
  | x :: xs, y :: ys => same x y && sameItems xs ys
  | _, _ => false

def sameEntries : List (Value × Value) → List (Value × Value) → Bool
  | [], _ => true
  | (k, v) :: rest, ys => (ys.any fun e => same k e.1 && same v e.2) && sameEntries rest ys

end

/-- Whether two of the entries have the same key. -/
def hasDuplicateKey : List (Value × Value) → Bool
  | [] => false
  | e :: rest => (rest.any fun e' => same e.1 e'.1) || hasDuplicateKey rest

/-- The tag of an application: what follows the exclamation mark. -/
def ownTag? (tag : Option String) : Option String :=
  match tag with
  | some tag => match tag.toList with
    | '!' :: name => some (String.ofList name)
    | _ => none
  | none => none

private def withTag (tag : Option String) (value : Value) : Except Fault Value :=
  match ownTag? tag with
  | some "" => .error .emptyTag
  | some name => .ok (.tagged name value)
  | none => .ok value

mutual

def ofNode : Node → Except Fault Value
  | .scalar tag style text =>
    match ownTag? tag, tag, style with
    | some _, _, .plain | none, none, .plain => do withTag tag (← Scalar.plain text)
    | some _, _, .quoted | none, none, .quoted => withTag tag (.string text)
    | none, some tag, _ => Scalar.tagged tag text
  | .sequence tag items => do withTag tag (.sequence (← ofItems items))
  | .mapping tag entries => do
    let es ← ofEntries entries
    if hasDuplicateKey es then throw .duplicateKey
    withTag tag (.mapping es)

def ofItems : List Node → Except Fault (List Value)
  | [] => .ok []
  | item :: rest => do return (← ofNode item) :: (← ofItems rest)

def ofEntries : List (Node × Node) → Except Fault (List (Value × Value))
  | [] => .ok []
  | (key, value) :: rest => do return (← ofNode key, ← ofNode value) :: (← ofEntries rest)

end

/-- The value of a text that holds one document; an empty text is null. -/
def ofText (text : String) : Except Fault Value := do
  ofNode (← Node.ofText text fun _ => false)

end Value

end ContractPress.Yaml
