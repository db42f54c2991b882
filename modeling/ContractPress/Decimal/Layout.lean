import ContractPress.Decimal.Shortest
import ContractPress.Decimal.Nearest

/-!
Writing a decimal with a point or with an exponent.
-/

namespace ContractPress.Decimal

/-- A number is written with a point if the exponent of its leading digit lies between `least` and
`greatest`, otherwise with an exponent; `plusSign` marks positive exponents. -/
structure Layout where
  least : Int
  greatest : Int
  plusSign : Bool

/-- Numbers of a JSON text. -/
def Layout.json : Layout := ⟨-5, 15, true⟩

/-- Numbers that become the key of a mapping. -/
def Layout.key : Layout := ⟨-5, 15, false⟩

/-- Numbers that a template prints, always with a point. -/
def Layout.template : Layout := ⟨-400, 400, false⟩

private def zeros (n : Nat) : List Char :=
  List.replicate n '0'

private def withPoint (digits : List Char) (exponent : Int) : List Char :=
  let leading := exponent + digits.length - 1
  if 0 ≤ exponent then digits ++ zeros exponent.toNat ++ ['.', '0']
  else if 0 ≤ leading then
    digits.take (leading + 1).toNat ++ '.' :: digits.drop (leading + 1).toNat
  else '0' :: '.' :: zeros (-leading - 1).toNat ++ digits

private def withExponent (plusSign : Bool) (digits : List Char) (exponent : Int) : List Char :=
  let leading := exponent + digits.length - 1
  let sign := if leading < 0 then ['-'] else if plusSign then ['+'] else []
  let whole := match digits with
    | [] => ['0']
    | [d] => [d]
    | d :: rest => d :: '.' :: rest
  whole ++ 'e' :: sign ++ Nat.toDigits 10 leading.natAbs

def Scientific.write (d : Scientific) (layout : Layout) : String :=
  let digits := Nat.toDigits 10 d.digits
  let leading := d.exponent + digits.length - 1
  let magnitude :=
    if layout.least ≤ leading && leading ≤ layout.greatest then withPoint digits d.exponent
    else withExponent layout.plusSign digits d.exponent
  String.ofList (if d.negative then '-' :: magnitude else magnitude)

/-- The shortest text of a finite number. -/
def write (layout : Layout) (x : Float) : String :=
  (shortest x).write layout

/-- The number nearest to `digits · 10 ^ exponent`; too large a one is infinite. -/
def toFloat (negative : Bool) (digits : Nat) (exponent : Int) : Float :=
  let leading := exponent + (Nat.toDigits 10 digits).length
  if digits = 0 || leading < -400 then nearest negative 0 1
  else if 400 < leading then nearest negative (Nat.pow 10 400) 1
  else nearest negative (digits * Nat.pow 10 exponent.toNat) (Nat.pow 10 (-exponent).toNat)

end ContractPress.Decimal
