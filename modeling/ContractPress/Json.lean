import ContractPress.Entries

/-!
Structured data: the values that contracts hold and that templates read.

An object keeps its fields in order. Whole numbers are exact; the rest are binary floating-point
numbers, and those are finite in every value that is read from a text.
-/

namespace ContractPress

inductive Json where
  | null
  | bool (value : Bool)
  | integer (value : Int)
  | float (value : Float)
  | string (value : String)
  | array (items : List Json)
  | object (fields : List (String × Json))
deriving Inhabited, Repr, BEq

namespace Json

/-- The fields of an object. -/
def fields? : Json → Option (Entries String Json)
  | .object fields => some fields
  | _ => none

/-- The fields of an object; no fields for anything else. -/
def fieldsOrEmpty (j : Json) : Entries String Json :=
  j.fields?.getD []

/-- The field of that name, if the value is an object that has it. -/
def field? (j : Json) (name : String) : Option Json :=
  j.fieldsOrEmpty.get? name

end Json

end ContractPress
