/-!
The shortest decimal that reads back as a given binary floating-point number, and of those the
nearest to it.

A finite number is `mantissa · 2 ^ exponent`. Every real strictly between the midpoints to its two
neighbours reads back as it, and so do the midpoints themselves when the mantissa is even. For one
digit, two digits, … the two points of the decimal grid around the number are tried; the first grid
with a point in that interval wins.
-/

namespace ContractPress.Decimal

/-- The number `digits · 10 ^ exponent`, with a sign of its own. -/
structure Scientific where
  negative : Bool
  digits : Nat
  exponent : Int
deriving Repr, DecidableEq

/-- A positive finite number as an integer times a power of two, with the width of its interval. -/
structure Binary where
  mantissa : Nat
  exponent : Int
  /-- The lower neighbour is only half as far as the upper one. -/
  narrowBelow : Bool

/-- The magnitude of a finite nonzero number. -/
def Binary.ofBits (bits : UInt64) : Binary :=
  let biased := ((bits >>> 52) &&& 0x7FF).toNat
  let fraction := (bits &&& 0xFFFFFFFFFFFFF).toNat
  if biased = 0 then ⟨fraction, -1074, false⟩
  else ⟨fraction + Nat.pow 2 52, (biased : Int) - 1075, fraction = 0 && biased > 1⟩

/-- A real interval with its middle value, all over one denominator. -/
structure Interval where
  low : Nat
  value : Nat
  high : Nat
  denominator : Nat
  closed : Bool

def Binary.interval (b : Binary) : Interval :=
  let scale := Nat.pow 2 b.exponent.toNat
  { low := (4 * b.mantissa - if b.narrowBelow then 1 else 2) * scale
    value := 4 * b.mantissa * scale
    high := (4 * b.mantissa + 2) * scale
    denominator := 4 * Nat.pow 2 (-b.exponent).toNat
    closed := b.mantissa % 2 = 0 }

/-- Whether `digits · 10 ^ exponent` lies in the interval. -/
def Interval.holds (i : Interval) (digits : Nat) (exponent : Int) : Bool :=
  let point := digits * Nat.pow 10 exponent.toNat * i.denominator
  let unit := Nat.pow 10 (-exponent).toNat
  if i.closed then i.low * unit ≤ point && point ≤ i.high * unit
  else i.low * unit < point && point < i.high * unit

/-- The distance from the middle value, in units that depend on the exponent only. -/
def Interval.distance (i : Interval) (digits : Nat) (exponent : Int) : Nat :=
  let point := digits * Nat.pow 10 exponent.toNat * i.denominator
  let middle := i.value * Nat.pow 10 (-exponent).toNat
  (point - middle) + (middle - point)

/-- The grid point just below the middle value. -/
def Interval.below (i : Interval) (exponent : Int) : Nat :=
  i.value * Nat.pow 10 (-exponent).toNat / (i.denominator * Nat.pow 10 exponent.toNat)

/-- The best point of one grid, an even one on a tie. -/
def Interval.onGrid? (i : Interval) (exponent : Int) : Option Nat :=
  let d := i.below exponent
  match i.holds d exponent, i.holds (d + 1) exponent with
  | true, true =>
    let down := i.distance d exponent
    let up := i.distance (d + 1) exponent
    some (if down < up then d else if up < down then d + 1 else if d % 2 = 0 then d else d + 1)
  | true, false => some d
  | false, true => some (d + 1)
  | false, false => none

/-- Tries `count` grids, each ten times as fine as the one before it. -/
def Interval.search (i : Interval) : Nat → Int → Nat × Int
  | 0, exponent => (i.below exponent, exponent)
  | count + 1, exponent =>
    match i.onGrid? exponent with
    | some digits => (digits, exponent)
    | none => i.search count (exponent - 1)

/-- The exponent of the leading decimal digit, or one more. -/
def Interval.leading (i : Interval) : Int :=
  let whole := i.value / i.denominator
  if whole > 0 then ((Nat.toDigits 10 whole).length : Int) - 1
  else -((Nat.toDigits 10 (i.denominator / i.value)).length : Int) + 1

/-- Moves the zeros at the end of the digits into the exponent; `fuel` bounds their number. -/
def stripZeros : Nat → Nat → Int → Nat × Int
  | 0, digits, exponent => (digits, exponent)
  | fuel + 1, digits, exponent =>
    if digits % 10 = 0 then stripZeros fuel (digits / 10) (exponent + 1) else (digits, exponent)

/-- The shortest decimal of a finite number. -/
def shortest (x : Float) : Scientific :=
  let bits := x.toBits
  let negative := bits >>> 63 = 1
  if bits <<< 1 = 0 then ⟨negative, 0, 0⟩
  else
    let i := (Binary.ofBits bits).interval
    let (digits, exponent) := i.search 19 (i.leading + 1)
    let (digits, exponent) := stripZeros 20 digits exponent
    ⟨negative, digits, exponent⟩

end ContractPress.Decimal
