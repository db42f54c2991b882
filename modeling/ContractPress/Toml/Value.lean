import ContractPress.Entries

/-!
The values of a TOML document, and the tables that its statements build up.

A table is opened by its own header, by a longer header or by a dotted key. The first may happen
once only, and what one of them opened the others may not fill at will.
-/

namespace ContractPress.Toml

inductive Value where
  | string (text : String)
  | integer (value : Int)
  | float (value : Float)
  | bool (value : Bool)
  /-- A date, a time or both, in their usual spelling. -/
  | moment (text : String)
  | array (items : List Value)
  /-- The keys are in order. -/
  | table (entries : List (String × Value))
deriving Inhabited, Repr

/-- What opened a table. -/
inductive Opening where
  | ownHeader
  | longerHeader
  | dottedKey
deriving Repr, DecidableEq

/-- A part of a document under construction. -/
inductive Draft where
  | value (v : Value)
  | table (opening : Opening) (entries : List (String × Draft))
  /-- The tables of an array, the last one first. -/
  | tables (elements : List (List (String × Draft)))
deriving Inhabited

namespace Draft

abbrev Table := Entries String Draft

/-- The table in which a dotted key is set, with what opened it. -/
abbrev Change := Opening → Table → Option Table

/-- Changes the table that the names lead to from a table, opening what is missing. A dotted key
does not enter a table that has a header of its own. -/
def alter (byHeader : Bool) (change : Change) : List String → Opening → Table → Option Table
  | [], opening, entries => change opening entries
  | name :: names, _, entries =>
    match entries.get? name with
    | none => do
      let opening := if byHeader then .longerHeader else .dottedKey
      return entries.insert name (.table opening (← alter byHeader change names opening []))
    | some (.table opening inner) => do
      if !byHeader && opening = .ownHeader then none
      return entries.insert name (.table opening (← alter byHeader change names opening inner))
    | some (.tables (last :: others)) => do
      return entries.insert name
        (.tables ((← alter byHeader change names .ownHeader last) :: others))
    | some (.tables []) | some (.value _) => none

/-- Sets a key that has no value yet. A table that the key's dots did not open is not theirs to
fill, and one that they opened is not for plain keys. -/
def setKey (dotted : Bool) (name : String) (v : Value) : Change := fun opening entries =>
  if (opening = .dottedKey) ≠ dotted || entries.contains name then none
  else some (entries.insert name (.value v))

/-- Opens a table by its header. -/
def openTable (name : String) : Change := fun _ entries =>
  match entries.get? name with
  | none => some (entries.insert name (.table .ownHeader []))
  | some (.table .longerHeader inner) => some (entries.insert name (.table .ownHeader inner))
  | some _ => none

/-- Opens one more table of an array. -/
def openElement (name : String) : Change := fun _ entries =>
  match entries.get? name with
  | none => some (entries.insert name (.tables [[]]))
  | some (.tables elements) => some (entries.insert name (.tables ([] :: elements)))
  | some _ => none

/-- The table with its keys in order. -/
def sorted (entries : List (String × Value)) : Value :=
  .table (entries.mergeSort fun a b => !decide (b.1 < a.1))

mutual

/-- The finished value. -/
def finish : Draft → Value
  | .value v => v
  | .table _ entries => sorted (finishEntries entries)
  | .tables elements => .array (finishElements elements).reverse

def finishEntries : List (String × Draft) → List (String × Value)
  | [] => []
  | (name, d) :: rest => (name, finish d) :: finishEntries rest

def finishElements : List (List (String × Draft)) → List Value
  | [] => []
  | entries :: rest => sorted (finishEntries entries) :: finishElements rest

end

end Draft

end ContractPress.Toml
