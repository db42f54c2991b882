import ContractPress.Toml.Value
import ContractPress.Decimal.Numeral

/-!
The numbers of TOML.

Underscores may stand between digits. A decimal number does not begin with a superfluous zero.
-/

namespace ContractPress.Toml

/-- The digits without their underscores, each of which must stand between two digits. -/
def digits? (isDigit : Char → Bool) : List Char → Option (List Char)
  | [] => none
  | [c] => if isDigit c then some [c] else none
  | c :: '_' :: rest => if isDigit c then (digits? isDigit rest).map (c :: ·) else none
  | c :: rest => if isDigit c then (digits? isDigit rest).map (c :: ·) else none

/-- Digits of which the first is not a superfluous zero. -/
def wholeDigits? (text : List Char) : Option (List Char) :=
  match digits? Char.isDigit text with
  | some ('0' :: _ :: _) | none => none
  | some digits => some digits

def unsigned (text : List Char) : List Char :=
  match text with
  | '+' :: rest | '-' :: rest => rest
  | _ => text

/-- A whole number of at most 128 bits. -/
def integer? (text : List Char) : Option Int :=
  let isHexDigit := fun c => (Decimal.digitValue? c).isSome
  let magnitude : Option Nat := match text with
    | '0' :: 'x' :: rest => do Decimal.natural? 16 (← digits? isHexDigit rest)
    | '0' :: 'o' :: rest => do Decimal.natural? 8 (← digits? Char.isDigit rest)
    | '0' :: 'b' :: rest => do Decimal.natural? 2 (← digits? Char.isDigit rest)
    | _ => do Decimal.natural? 10 (← wholeDigits? (unsigned text))
  match magnitude with
  | none => none
  | some n =>
    if text.head? = some '-' then if n ≤ Nat.pow 2 127 then some (-(n : Int)) else none
    else if n < Nat.pow 2 128 then some n else none

/-- A number with a point, an exponent or both, or one of the names of the numbers that are not
finite. -/
def float? (text : List Char) : Option Float :=
  let body := unsigned text
  let negative := text.head? = some '-'
  if body = ['i', 'n', 'f'] then some (if negative then -1.0 / 0.0 else 1.0 / 0.0)
  else if body = ['n', 'a', 'n'] then some (0.0 / 0.0)
  else do
    let isE := fun c : Char => c = 'e' || c = 'E'
    let mantissa := body.takeWhile (!isE ·)
    let exponent := body.dropWhile (!isE ·)
    let whole ← wholeDigits? (mantissa.takeWhile (· ≠ '.'))
    let fraction ← match mantissa.dropWhile (· ≠ '.') with
      | [] => some []
      | _ :: rest => (digits? Char.isDigit rest).map ('.' :: ·)
    let power ← match exponent with
      | [] => some []
      | e :: rest => do
        let digits ← digits? Char.isDigit (unsigned rest)
        some (e :: (if rest.head? = some '-' then '-' :: digits else digits))
    let numeral := whole ++ fraction ++ power
    let x ← Decimal.readFloat? (if negative then '-' :: numeral else numeral)
    if x.isFinite then some x else none

end ContractPress.Toml
