/-!
The binary floating-point number nearest to a fraction, and the whole numbers among them.

The quotient is scaled by a power of two so that its whole part has the 53 bits of a mantissa, or
fewer next to zero, and is then rounded; of two numbers equally near the even one is taken.
-/

namespace ContractPress.Decimal

/-- The quotient rounded to a whole number, a half to the even neighbour. -/
def roundDiv (numerator denominator : Nat) : Nat :=
  let q := numerator / denominator
  let r := numerator % denominator
  if 2 * r < denominator then q
  else if denominator < 2 * r then q + 1
  else if q % 2 = 0 then q else q + 1

/-- The bits of the number nearest to a positive fraction. -/
def nearestBits (numerator denominator : Nat) : Nat :=
  let estimate : Int := (numerator.log2 : Int) - denominator.log2
  let scaled := fun e : Int =>
    (numerator * Nat.pow 2 (-e).toNat, denominator * Nat.pow 2 e.toNat)
  let low := max (-1074) (estimate - 53)
  let exponent :=
    if Nat.pow 2 53 ≤ (scaled low).1 / (scaled low).2 then low + 1 else low
  let mantissa := roundDiv (scaled exponent).1 (scaled exponent).2
  min ((exponent + 1074).toNat * Nat.pow 2 52 + mantissa) (0x7FF * Nat.pow 2 52)

/-- The number nearest to a fraction; too large a one is infinite. -/
def nearest (negative : Bool) (numerator denominator : Nat) : Float :=
  let magnitude :=
    if numerator = 0 then 0 else (nearestBits numerator denominator).toUInt64
  Float.ofBits (if negative then magnitude ||| 0x8000000000000000 else magnitude)

/-- The number nearest to a whole number. -/
def ofInt (n : Int) : Float :=
  nearest (n < 0) n.natAbs 1

/-- The whole number that a floating-point number is, if it is one. -/
def toInt? (x : Float) : Option Int :=
  let bits := x.toBits
  let biased := ((bits >>> 52) &&& 0x7FF).toNat
  let fraction := (bits &&& 0xFFFFFFFFFFFFF).toNat
  if biased = 0x7FF then none
  else
    let mantissa := if biased = 0 then fraction else fraction + Nat.pow 2 52
    let exponent : Int := (max biased 1 : Nat) - 1075
    let numerator := mantissa * Nat.pow 2 exponent.toNat
    let denominator := Nat.pow 2 (-exponent).toNat
    if numerator % denominator = 0 then
      let n : Int := (numerator / denominator : Nat)
      some (if bits >>> 63 = 1 then -n else n)
    else none

end ContractPress.Decimal
