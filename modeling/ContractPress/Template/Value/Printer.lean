import ContractPress.Template.Value
import ContractPress.Decimal.Layout
import ContractPress.Text.Quoted

/-!
The text of a value: as a template prints it, and as it stands inside a list or a map.
-/

namespace ContractPress.Template.Value

/-- A floating-point number with a point, never with an exponent. -/
def floatText (x : Float) : String :=
  if x.isNaN then "NaN"
  else if x.isFinite then Decimal.write .template x
  else if x < 0 then "-inf" else "inf"

def octetText (o : UInt8) : List Char :=
  let n := o.toNat
  if n = 34 then ['"']
  else if n = 9 then ['\\', 't']
  else if n = 10 then ['\\', 'n']
  else if n = 13 then ['\\', 'r']
  else if n = 39 then ['\\', '\'']
  else if n = 92 then ['\\', '\\']
  else if 32 ≤ n && n < 127 then [Char.ofNat n]
  else ['\\', 'x'] ++ (if n < 16 then ['0'] else []) ++ Text.hexDigits n

mutual

/-- The text of a value inside a list or a map. -/
def inner : Value → String
  | .undefined => "undefined"
  | .none => "None"
  | .bool true => "True"
  | .bool false => "False"
  | .integer n => toString n
  | .float x => floatText x
  | .string s => Text.quoted s
  | .bytes octets => String.ofList (['b', '\''] ++ octets.flatMap octetText ++ ['\''])
  | .list items => "[" ++ innerItems items ++ "]"
  | .map entries => "\x7b" ++ innerEntries entries ++ "\x7d"
  | .helper name => "<helper " ++ name ++ ">"
  | .block .. => "<macro caller>"

def innerItems : List Value → String
  | [] => ""
  | [item] => inner item
  | item :: rest => inner item ++ ", " ++ innerItems rest

def innerEntries : List (Value × Value) → String
  | [] => ""
  | [(key, value)] => inner key ++ ": " ++ inner value
  | (key, value) :: rest => inner key ++ ": " ++ inner value ++ ", " ++ innerEntries rest

end

/-- The text that a template prints for a value. -/
def print : Value → String
  | .undefined => ""
  | .string s => s
  | .bytes octets => Text.ofUtf8Lossy octets
  | v => inner v

end ContractPress.Template.Value
