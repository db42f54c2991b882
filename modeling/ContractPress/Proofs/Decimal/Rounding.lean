import ContractPress.Decimal.Nearest
import Mathlib.Data.Nat.Log
import Mathlib.Tactic.Ring

/-!
Rounding whole numbers to 53 significant bits.

A number is divided by the power of two that leaves 53 bits before the point (`unit`), and the
quotient is rounded. Rounding keeps the weak order of numbers and their leading power of two, which
bounds the rounded numbers (`two_pow_le_roundNat`, `roundNat_le_two_pow`).
-/

namespace ContractPress.Decimal

/-! ### Rounded quotients -/

theorem roundDiv_one (n : Nat) : roundDiv n 1 = n := by
  simp [roundDiv, Nat.mod_one]

theorem roundDiv_mul_right {d : Nat} (hd : 0 < d) (q : Nat) : roundDiv (q * d) d = q := by
  simp [roundDiv, Nat.mul_div_cancel q hd, Nat.mul_mod_left, hd]

theorem roundDiv_mono {a b : Nat} (h : a ≤ b) (d : Nat) : roundDiv a d ≤ roundDiv b d := by
  have hquotient : a / d ≤ b / d := Nat.div_le_div_right h
  have ha := Nat.div_add_mod a d
  have hb := Nat.div_add_mod b d
  rcases hquotient.lt_or_eq with hlt | heq
  · have hup : roundDiv a d ≤ a / d + 1 := by
      unfold roundDiv
      grind
    have hdown : b / d ≤ roundDiv b d := by
      unfold roundDiv
      grind
    omega
  · have hrest : a % d ≤ b % d := by
      rw [heq] at ha
      omega
    unfold roundDiv
    rw [heq]
    grind

/-- A rounded quotient is off by a half at most. -/
theorem roundDiv_nearest {d : Nat} (hd : 0 < d) (a : Nat) :
    2 * a ≤ 2 * (roundDiv a d * d) + d ∧ 2 * (roundDiv a d * d) ≤ 2 * a + d := by
  have ha := Nat.div_add_mod' a d
  have hrest := Nat.mod_lt a hd
  have hsucc : (a / d + 1) * d = a / d * d + d := Nat.succ_mul _ _
  unfold roundDiv
  grind

/-! ### Rounded numbers -/

/-- The weight of the last of the 53 bits that a number keeps. -/
def unit (n : Nat) : Nat :=
  2 ^ (n.log2 - 52)

def roundNat (n : Nat) : Nat :=
  roundDiv n (unit n) * unit n

/-- The whole number of 53 significant bits that is nearest to a whole number. -/
def rounded : Int → Int
  | .ofNat n => roundNat n
  | .negSucc n => -roundNat (n + 1)

/-- The mantissa of a number: its quotient by its unit, of 53 bits, or one unit more. -/
def mantissa (n : Nat) : Nat :=
  roundDiv (n * 2 ^ (52 - n.log2)) (unit n)

theorem unit_pos (n : Nat) : 0 < unit n :=
  Nat.two_pow_pos _

/-- A rounded number is off by half a unit at most. -/
theorem roundNat_nearest (n : Nat) :
    2 * n ≤ 2 * roundNat n + unit n ∧ 2 * roundNat n ≤ 2 * n + unit n :=
  roundDiv_nearest (unit_pos n) n

theorem roundNat_eq_self {n : Nat} (h : n ≤ 2 ^ 53) : roundNat n = n := by
  rcases h.lt_or_eq with hlt | rfl
  · have hunit : unit n = 1 := by
      rw [unit]
      by_cases hn : n = 0
      · rw [hn]
        rfl
      · have := (Nat.log2_lt hn).mpr hlt
        rw [Nat.sub_eq_zero_of_le (by omega), pow_zero]
    rw [roundNat, hunit, roundDiv_one, Nat.mul_one]
  · decide

/-- Both scales shift by the same power of two. -/
theorem two_pow_mul_unit (k n : Nat) :
    2 ^ (k + 52) * unit n = 2 ^ (k + n.log2) * 2 ^ (52 - n.log2) := by
  rw [unit, ← pow_add, ← pow_add]
  congr 1
  omega

theorem le_mantissa {n : Nat} (hn : n ≠ 0) : 2 ^ 52 ≤ mantissa n := by
  have hlog : 2 ^ n.log2 ≤ n := Nat.log2_self_le hn
  have hle : 2 ^ 52 * unit n ≤ n * 2 ^ (52 - n.log2) := by
    have := two_pow_mul_unit 0 n
    rw [Nat.zero_add, Nat.zero_add] at this
    rw [this]
    exact Nat.mul_le_mul_right _ hlog
  calc 2 ^ 52 = roundDiv (2 ^ 52 * unit n) (unit n) := (roundDiv_mul_right (unit_pos n) _).symm
    _ ≤ mantissa n := roundDiv_mono hle (unit n)

theorem mantissa_le (n : Nat) : mantissa n ≤ 2 ^ 53 := by
  have hlog : n ≤ 2 ^ (1 + n.log2) := by
    rw [Nat.add_comm]
    exact Nat.lt_log2_self.le
  have hle : n * 2 ^ (52 - n.log2) ≤ 2 ^ 53 * unit n := by
    rw [two_pow_mul_unit 1 n]
    exact Nat.mul_le_mul_right _ hlog
  calc mantissa n ≤ roundDiv (2 ^ 53 * unit n) (unit n) := roundDiv_mono hle (unit n)
    _ = 2 ^ 53 := roundDiv_mul_right (unit_pos n) _

/-- A rounded number is its mantissa times a power of two. -/
theorem roundNat_mul (n : Nat) : roundNat n * 2 ^ 52 = mantissa n * 2 ^ n.log2 := by
  rw [roundNat, mantissa, unit]
  by_cases h : 52 ≤ n.log2
  · rw [Nat.sub_eq_zero_of_le h, pow_zero, Nat.mul_one, Nat.mul_assoc, ← pow_add,
      Nat.sub_add_cancel h]
  · rw [Nat.sub_eq_zero_of_le (Nat.le_of_not_le h), pow_zero, Nat.mul_one, roundDiv_one,
      roundDiv_one, Nat.mul_assoc, ← pow_add, Nat.sub_add_cancel (Nat.le_of_not_le h)]

theorem two_pow_le_roundNat {n : Nat} (hn : n ≠ 0) : 2 ^ n.log2 ≤ roundNat n := by
  have hmantissa := Nat.mul_le_mul_right (2 ^ n.log2) (le_mantissa hn)
  rw [← roundNat_mul, Nat.mul_comm] at hmantissa
  exact Nat.le_of_mul_le_mul_right hmantissa (by decide)

theorem roundNat_le_two_pow (n : Nat) : roundNat n ≤ 2 ^ (n.log2 + 1) := by
  have hmantissa := Nat.mul_le_mul_right (2 ^ n.log2) (mantissa_le n)
  rw [← roundNat_mul, show 2 ^ 53 * 2 ^ n.log2 = 2 ^ (n.log2 + 1) * 2 ^ 52 by ring] at hmantissa
  exact Nat.le_of_mul_le_mul_right hmantissa (by decide)

theorem roundNat_mono {a b : Nat} (h : a ≤ b) : roundNat a ≤ roundNat b := by
  by_cases ha : a = 0
  · rw [ha, roundNat_eq_self (Nat.zero_le _)]
    exact Nat.zero_le _
  · have hlog : a.log2 ≤ b.log2 := by
      rw [Nat.le_log2 (by omega)]
      exact (Nat.log2_self_le ha).trans h
    rcases hlog.lt_or_eq with hlt | heq
    · calc roundNat a ≤ 2 ^ (a.log2 + 1) := roundNat_le_two_pow a
        _ ≤ 2 ^ b.log2 := Nat.pow_le_pow_right (by decide) hlt
        _ ≤ roundNat b := two_pow_le_roundNat (by omega)
    · rw [roundNat, roundNat, unit, heq]
      exact Nat.mul_le_mul_right _ (roundDiv_mono h _)

theorem roundNat_pos {n : Nat} (hn : n ≠ 0) : 0 < roundNat n :=
  (Nat.two_pow_pos _).trans_le (two_pow_le_roundNat hn)

theorem rounded_of_nonneg {n : Int} (h : 0 ≤ n) : rounded n = roundNat n.natAbs := by
  obtain ⟨n, rfl⟩ := Int.eq_ofNat_of_zero_le h
  rfl

theorem rounded_of_neg {n : Int} (h : n < 0) : rounded n = -roundNat n.natAbs := by
  obtain ⟨n, rfl⟩ := Int.eq_negSucc_of_lt_zero h
  rfl

theorem rounded_pos {n : Int} (h : 0 < n) : 0 < rounded n := by
  rw [rounded_of_nonneg h.le]
  exact Int.natCast_pos.mpr (roundNat_pos (Int.natAbs_ne_zero.mpr h.ne'))

theorem rounded_neg {n : Int} (h : n < 0) : rounded n < 0 := by
  rw [rounded_of_neg h]
  exact Int.neg_neg_of_pos (Int.natCast_pos.mpr (roundNat_pos (Int.natAbs_ne_zero.mpr h.ne)))

theorem rounded_mono {a b : Int} (h : a ≤ b) : rounded a ≤ rounded b := by
  match a, b with
  | .ofNat a, .ofNat b => exact Int.ofNat_le.mpr (roundNat_mono (Int.ofNat_le.mp h))
  | .ofNat a, .negSucc b =>
    exact absurd (h.trans_lt (Int.negSucc_lt_zero b)) (Int.not_lt.mpr (Int.natCast_nonneg a))
  | .negSucc a, .ofNat b =>
    simp only [rounded]
    omega
  | .negSucc a, .negSucc b =>
    have := roundNat_mono (show b + 1 ≤ a + 1 by omega)
    simp only [rounded]
    omega

/-- Numbers of up to 53 bits are kept. -/
theorem rounded_eq_self {n : Int} (h : n.natAbs ≤ 2 ^ 53) : rounded n = n := by
  match n with
  | .ofNat n => exact congrArg Int.ofNat (roundNat_eq_self h)
  | .negSucc n =>
    rw [rounded, roundNat_eq_self (by omega)]
    rfl

end ContractPress.Decimal
