import ContractPress.Decimal.Layout

/-!
Reading numerals: digits in a base, and decimals with a point and an exponent.
-/

namespace ContractPress.Decimal

/-- The value of one digit, capital or small, in any base up to sixteen. -/
def digitValue? (c : Char) : Option Nat :=
  if '0' ≤ c && c ≤ '9' then some (c.toNat - 48)
  else if 'a' ≤ c && c ≤ 'f' then some (c.toNat - 87)
  else if 'A' ≤ c && c ≤ 'F' then some (c.toNat - 55)
  else none

private def digitsFrom? (base : Nat) : Nat → List Char → Option Nat
  | acc, [] => some acc
  | acc, c :: rest => do
    let d ← digitValue? c
    if d < base then digitsFrom? base (acc * base + d) rest else none

/-- The number that one or more digits write. -/
def natural? (base : Nat) : List Char → Option Nat
  | [] => none
  | cs => digitsFrom? base 0 cs

private def sign (cs : List Char) : Bool × List Char :=
  match cs with
  | '-' :: rest => (true, rest)
  | '+' :: rest => (false, rest)
  | _ => (false, cs)

/-- The exponent part: nothing, or a letter E, a sign and digits. -/
private def exponent? (cs : List Char) : Option Int :=
  match cs with
  | [] => some 0
  | e :: rest =>
    if e = 'e' || e = 'E' then
      let (negative, digits) := sign rest
      (natural? 10 digits).map fun n => if negative then -(n : Int) else n
    else none

/-- The number that a decimal numeral writes. A point needs a digit on one of its sides. -/
def numeral? (cs : List Char) : Option Scientific :=
  let (negative, cs) := sign cs
  let whole := cs.takeWhile Char.isDigit
  let cs := cs.dropWhile Char.isDigit
  let (fraction, cs) := match cs with
    | '.' :: rest => (rest.takeWhile Char.isDigit, rest.dropWhile Char.isDigit)
    | _ => ([], cs)
  do
    let digits ← natural? 10 (whole ++ fraction)
    let exponent ← exponent? cs
    return ⟨negative, digits, exponent - fraction.length⟩

/-- The floating-point number nearest to a numeral; too large a one is infinite. -/
def readFloat? (cs : List Char) : Option Float :=
  (numeral? cs).map fun d => toFloat d.negative d.digits d.exponent

end ContractPress.Decimal
