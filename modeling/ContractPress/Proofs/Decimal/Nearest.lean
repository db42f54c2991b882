import ContractPress.Proofs.Decimal.Rounding
import Mathlib

/-!
The floating-point number nearest to a whole number.

The word of the number nearest to `n` has the exponent and the mantissa of `rounded n`
(`wordValue_nearestBits`). A word has its exponent above its mantissa, so normal numbers of one sign
are ordered as their words are (`compare_normal`), and nearest numbers as rounded numbers are
(`compare_ofInt`).
-/

namespace ContractPress.Decimal

/-! ### Words -/

theorem nearestBits_one {n : Nat} (hn : n ≠ 0) (hlog : n.log2 ≤ 1022) :
    nearestBits n 1 = (n.log2 + 1022) * 2 ^ 52 + mantissa n := by
  have hlow : max (-1074) ((n.log2 : Int) - (Nat.log2 1 : Nat) - 53) = n.log2 - 53 := by
    rw [show Nat.log2 1 = 0 by decide]
    omega
  have hwide : 2 ^ 53 ≤ n * 2 ^ (53 - n.log2) / (1 * 2 ^ (n.log2 - 53)) := by
    rw [Nat.one_mul, Nat.le_div_iff_mul_le (Nat.two_pow_pos _)]
    calc 2 ^ 53 * 2 ^ (n.log2 - 53) = 2 ^ n.log2 * 2 ^ (53 - n.log2) := by
          rw [← pow_add, ← pow_add]
          congr 1
          omega
      _ ≤ n * 2 ^ (53 - n.log2) := Nat.mul_le_mul_right _ (Nat.log2_self_le hn)
  have hmantissa : mantissa n = roundDiv (n * 2 ^ (52 - n.log2)) (1 * 2 ^ (n.log2 - 52)) := by
    rw [Nat.one_mul, mantissa, unit]
  have hupper := mantissa_le n
  rw [nearestBits]
  simp only [Nat.pow_eq, hlow]
  rw [show (-((n.log2 : Int) - 53)).toNat = 53 - n.log2 by omega,
    show ((n.log2 : Int) - 53).toNat = n.log2 - 53 by omega, if_pos hwide,
    show (-((n.log2 : Int) - 53 + 1)).toNat = 52 - n.log2 by omega,
    show ((n.log2 : Int) - 53 + 1).toNat = n.log2 - 52 by omega, ← hmantissa,
    show ((n.log2 : Int) - 53 + 1 + 1074).toNat = n.log2 + 1022 by omega]
  omega

/-- The scale on which every word stands for a whole number. -/
def scale : Nat :=
  2 ^ 1075

theorem scale_pos : 0 < scale := by
  unfold scale
  positivity

/-- What a word stands for, by this scale. -/
def wordValue (w : Nat) : Nat :=
  (2 ^ 52 + w % 2 ^ 52) * 2 ^ (w / 2 ^ 52)

theorem wordValue_strictMono : StrictMono wordValue := by
  intro w v h
  rw [wordValue, wordValue]
  rcases (Nat.div_le_div_right h.le : w / 2 ^ 52 ≤ v / 2 ^ 52).lt_or_eq with hlt | heq
  · calc (2 ^ 52 + w % 2 ^ 52) * 2 ^ (w / 2 ^ 52)
        < 2 ^ 53 * 2 ^ (w / 2 ^ 52) := by
          refine Nat.mul_lt_mul_of_pos_right ?_ (Nat.two_pow_pos _)
          omega
      _ = 2 ^ 52 * 2 ^ (w / 2 ^ 52 + 1) := by ring
      _ ≤ (2 ^ 52 + v % 2 ^ 52) * 2 ^ (v / 2 ^ 52) :=
          Nat.mul_le_mul (Nat.le_add_right _ _) (Nat.pow_le_pow_right (by decide) hlt)
  · rw [heq]
    refine Nat.mul_lt_mul_of_pos_right ?_ (Nat.two_pow_pos _)
    omega

theorem wordValue_nearestBits {n : Nat} (hn : n ≠ 0) (hlog : n.log2 ≤ 1022) :
    wordValue (nearestBits n 1) = roundNat n * scale := by
  have hscale : mantissa n * 2 ^ (n.log2 + 1023) = roundNat n * scale := by
    rw [scale, show 2 ^ 1075 = 2 ^ 52 * 2 ^ 1023 by rw [← pow_add], ← Nat.mul_assoc, roundNat_mul,
      pow_add, Nat.mul_assoc]
  rw [nearestBits_one hn hlog, ← hscale, wordValue]
  have hle := le_mantissa hn
  rcases (mantissa_le n).lt_or_eq with hlt | heq
  · rw [show ((n.log2 + 1022) * 2 ^ 52 + mantissa n) / 2 ^ 52 = n.log2 + 1023 by omega,
      show ((n.log2 + 1022) * 2 ^ 52 + mantissa n) % 2 ^ 52 = mantissa n - 2 ^ 52 by omega,
      Nat.add_sub_cancel' hle]
  · rw [heq, show ((n.log2 + 1022) * 2 ^ 52 + 2 ^ 53) / 2 ^ 52 = n.log2 + 1023 + 1 by omega,
      show ((n.log2 + 1022) * 2 ^ 52 + 2 ^ 53) % 2 ^ 52 = 0 by omega, pow_succ]
    omega

/-- The words of nearest numbers have an exponent that is neither the least nor the greatest. -/
theorem nearestBits_bounds {n : Nat} (hn : n ≠ 0) (hlog : n.log2 ≤ 1022) :
    2 ^ 52 ≤ nearestBits n 1 ∧ nearestBits n 1 < 0x7FF * 2 ^ 52 := by
  have hlower := le_mantissa hn
  have hupper := mantissa_le n
  rw [nearestBits_one hn hlog]
  omega

/-! ### Unpacked numbers -/

section

open Float.Model.Format (binary64)

open Float.Model.UnpackedFloat

theorem toNat_leading_append (m : BitVec 52) : (1#1 ++ m).toNat = 2 ^ 52 + m.toNat := by
  rw [BitVec.toNat_append, ← Nat.shiftLeft_add_eq_or_of_lt m.isLt]
  rfl

/-- The number of a sign, an exponent and the bits of a mantissa after its leading one. -/
def normal (s : Sign) (e : BitVec 11) (m : BitVec 52) : Float.Model.UnpackedFloat :=
  .finite s (2 ^ 52 + m.toNat) (e.toNat - 1075) (Nat.add_pos_left (Nat.two_pow_pos 52) _)

theorem unpack_of_normal {b : BitVec 64} (hzero : @unpackExponent binary64 b ≠ 0#11)
    (hfinite : @unpackExponent binary64 b ≠ -1#11) :
    unpack binary64 b = normal (.ofBitVec (@unpackSign binary64 b)) (@unpackExponent binary64 b)
      (@unpackMantissa binary64 b) := by
  rw [unpack, if_neg hfinite, if_neg hzero, normal]
  simp only [finite.injEq, toNat_leading_append, true_and]
  rfl

/-- A float of a word that is no NaN is what the word unpacks to. -/
theorem unpack_ofBits {w : UInt64} (hfinite : @unpackExponent binary64 w.toBitVec ≠ -1#11) :
    (Float.ofBits w).toModel.unpack = unpack binary64 w.toBitVec := by
  have hnumber : ¬@isNaNBits binary64 w.toBitVec := by
    simp only [isNaNBits, hfinite, false_and, decide_false, Bool.false_eq_true, not_false_eq_true]
  have hpacked : (Float.ofBits w).toModel.unpack =
      unpack binary64 (pack binary64 (unpack binary64 w.toBitVec)) := rfl
  rw [hpacked, pack_unpack, if_neg hnumber]

theorem toNat_unpackExponent (b : BitVec 64) :
    (@unpackExponent binary64 b).toNat = b.toNat / 2 ^ 52 % 2 ^ 11 := by
  rw [unpackExponent, BitVec.toNat_cast, BitVec.extractLsb_toNat, Nat.shiftRight_eq_div_pow]
  rfl

theorem toNat_unpackMantissa (b : BitVec 64) :
    (@unpackMantissa binary64 b).toNat = b.toNat % 2 ^ 52 := by
  rw [unpackMantissa, BitVec.toNat_cast, BitVec.extractLsb_toNat, Nat.shiftRight_zero]
  rfl

/-- The sign is the bit above all others. -/
theorem sign_eq {b : BitVec 64} (negative : Bool) {k : Nat} (hk : k < 2 ^ 63)
    (hb : b.toNat = (if negative then 2 ^ 63 else 0) + k) :
    Sign.ofBitVec (@unpackSign binary64 b) = if negative then .negative else .positive := by
  have hbit : (@unpackSign binary64 b).toNat = b.toNat / 2 ^ 63 % 2 := by
    rw [unpackSign, BitVec.toNat_cast, BitVec.extractLsb_toNat, Nat.shiftRight_eq_div_pow]
    rfl
  cases negative with
  | false =>
    have hzero : @unpackSign binary64 b = 0#1 := by
      apply BitVec.eq_of_toNat_eq
      rw [hbit, hb, if_neg Bool.false_ne_true, BitVec.toNat_ofNat]
      omega
    rw [hzero]
    rfl
  | true =>
    have hone : @unpackSign binary64 b = 1#1 := by
      apply BitVec.eq_of_toNat_eq
      rw [hbit, hb, if_pos rfl, BitVec.toNat_ofNat]
      omega
    rw [hone]
    rfl

/-- The word of the number nearest to a whole number, with its sign. -/
theorem toNat_nearest_word (negative : Bool) {n : Nat} (hn : n ≠ 0) (hlog : n.log2 ≤ 1022) :
    ∃ w : UInt64, nearest negative n 1 = Float.ofBits w ∧
      w.toNat = (if negative then 2 ^ 63 else 0) + nearestBits n 1 := by
  obtain ⟨-, hupper⟩ := nearestBits_bounds hn hlog
  have hmagnitude : (nearestBits n 1).toUInt64.toNat = nearestBits n 1 :=
    UInt64.toNat_ofNat_of_lt' (by rw [UInt64.size]; omega)
  refine ⟨_, by rw [nearest, if_neg hn], ?_⟩
  cases negative with
  | false => rw [if_neg Bool.false_ne_true, if_neg Bool.false_ne_true, hmagnitude, Nat.zero_add]
  | true =>
    have hor := Nat.two_pow_add_eq_or_of_lt (i := 63) (b := nearestBits n 1) (by omega) 1
    rw [if_pos rfl, if_pos rfl, UInt64.toNat_or, hmagnitude, Nat.or_comm]
    exact hor.symm

theorem unpack_nearest (negative : Bool) {n : Nat} (hn : n ≠ 0) (hlog : n.log2 ≤ 1022) :
    ∃ e m, (nearest negative n 1).toModel.unpack =
      normal (if negative then .negative else .positive) e m ∧
      e.toNat * 2 ^ 52 + m.toNat = nearestBits n 1 := by
  obtain ⟨hlower, hupper⟩ := nearestBits_bounds hn hlog
  obtain ⟨w, hword, hw⟩ := toNat_nearest_word negative hn hlog
  have hexponent : (@unpackExponent binary64 w.toBitVec).toNat = nearestBits n 1 / 2 ^ 52 := by
    rw [toNat_unpackExponent, UInt64.toNat_toBitVec, hw]
    split <;> omega
  have hmantissa : (@unpackMantissa binary64 w.toBitVec).toNat = nearestBits n 1 % 2 ^ 52 := by
    rw [toNat_unpackMantissa, UInt64.toNat_toBitVec, hw]
    split <;> omega
  have hsign := @sign_eq w.toBitVec negative _ (by omega) hw
  have hzero : @unpackExponent binary64 w.toBitVec ≠ 0#11 := by
    intro h
    rw [h, show (0#11).toNat = 0 from rfl] at hexponent
    omega
  have hfinite : @unpackExponent binary64 w.toBitVec ≠ -1#11 := by
    intro h
    rw [h, show (-1#11).toNat = 2047 from rfl] at hexponent
    omega
  refine ⟨_, _, by rw [hword, unpack_ofBits hfinite, unpack_of_normal hzero hfinite, hsign],
    ?_⟩
  rw [hexponent, hmantissa]
  omega

/-- Normal numbers of one sign are ordered as their words are. -/
theorem compare_normal (s : Sign) (e e' : BitVec 11) (m m' : BitVec 52) :
    (normal s e m).compare (normal s e' m') =
      some (match s with
        | .positive => compare (e.toNat * 2 ^ 52 + m.toNat) (e'.toNat * 2 ^ 52 + m'.toNat)
        | .negative => compare (e'.toNat * 2 ^ 52 + m'.toNat) (e.toNat * 2 ^ 52 + m.toNat)) := by
  have hlex : ∀ (e e' : BitVec 11) (m m' : BitVec 52),
      (compare ((e.toNat : Int) - 1075) (e'.toNat - 1075)).then
        (compare (2 ^ 52 + m.toNat) (2 ^ 52 + m'.toNat)) =
      compare (e.toNat * 2 ^ 52 + m.toNat) (e'.toNat * 2 ^ 52 + m'.toNat) := by
    intro e e' m m'
    have hm := m.isLt
    have hm' := m'.isLt
    rcases lt_trichotomy e.toNat e'.toNat with h | h | h
    · have hexponent : compare ((e.toNat : Int) - 1075) (e'.toNat - 1075) = .lt :=
        compare_lt_iff_lt.mpr (by omega)
      rw [hexponent]
      exact (compare_lt_iff_lt.mpr (by omega)).symm
    · rw [h, compare_eq_iff_eq.mpr rfl, Ordering.eq_then]
      simp only [← cmp_eq_compare, cmp_add_left]
    · have hexponent : compare ((e.toNat : Int) - 1075) (e'.toNat - 1075) = .gt :=
        compare_gt_iff_gt.mpr (by omega)
      rw [hexponent]
      exact (compare_gt_iff_gt.mpr (by omega)).symm
  cases s with
  | positive => exact congrArg some (hlex e e' m m')
  | negative =>
    refine congrArg some ((congrArg Ordering.swap (hlex e e' m m')).trans ?_)
    exact Nat.compare_swap _ _

end

/-! ### Order -/

theorem compare_nearestBits {a b : Nat} (ha : a ≠ 0) (hb : b ≠ 0) (hloga : a.log2 ≤ 1022)
    (hlogb : b.log2 ≤ 1022) :
    compare (nearestBits a 1) (nearestBits b 1) = compare (roundNat a) (roundNat b) := by
  have hscale : StrictMono fun k : Nat => k * scale :=
    strictMono_mul_right_of_pos scale_pos
  rw [← cmp_eq_compare, ← cmp_eq_compare, ← wordValue_strictMono.cmp_map_eq,
    wordValue_nearestBits ha hloga, wordValue_nearestBits hb hlogb]
  exact hscale.cmp_map_eq _ _

theorem unpack_ofInt_of_pos {n : Int} (h : 0 < n) (hlog : n.natAbs.log2 ≤ 1022) :
    ∃ e m, (ofInt n).toModel.unpack = normal .positive e m ∧
      e.toNat * 2 ^ 52 + m.toNat = nearestBits n.natAbs 1 := by
  have hpos : ofInt n = nearest false n.natAbs 1 := by rw [ofInt, decide_eq_false h.not_gt]
  rw [hpos]
  exact unpack_nearest false (Int.natAbs_ne_zero.mpr h.ne') hlog

theorem unpack_ofInt_of_neg {n : Int} (h : n < 0) (hlog : n.natAbs.log2 ≤ 1022) :
    ∃ e m, (ofInt n).toModel.unpack = normal .negative e m ∧
      e.toNat * 2 ^ 52 + m.toNat = nearestBits n.natAbs 1 := by
  have hneg : ofInt n = nearest true n.natAbs 1 := by rw [ofInt, decide_eq_true h]
  rw [hneg]
  exact unpack_nearest true (Int.natAbs_ne_zero.mpr h.ne) hlog

theorem compare_ofInt_of_pos {a b : Int} (ha : 0 < a) (hb : 0 < b)
    (hloga : a.natAbs.log2 ≤ 1022) (hlogb : b.natAbs.log2 ≤ 1022) :
    (ofInt a).toModel.unpack.compare (ofInt b).toModel.unpack =
      some (compare (rounded a) (rounded b)) := by
  obtain ⟨e, m, hunpack, hword⟩ := unpack_ofInt_of_pos ha hloga
  obtain ⟨e', m', hunpack', hword'⟩ := unpack_ofInt_of_pos hb hlogb
  rw [hunpack, hunpack', compare_normal, hword, hword', rounded_of_nonneg ha.le,
    rounded_of_nonneg hb.le]
  simp only
  rw [compare_nearestBits (Int.natAbs_ne_zero.mpr ha.ne') (Int.natAbs_ne_zero.mpr hb.ne') hloga
    hlogb, ← cmp_eq_compare, ← cmp_eq_compare]
  exact congrArg some (Nat.strictMono_cast.cmp_map_eq _ _).symm

theorem compare_ofInt_of_neg {a b : Int} (ha : a < 0) (hb : b < 0)
    (hloga : a.natAbs.log2 ≤ 1022) (hlogb : b.natAbs.log2 ≤ 1022) :
    (ofInt a).toModel.unpack.compare (ofInt b).toModel.unpack =
      some (compare (rounded a) (rounded b)) := by
  obtain ⟨e, m, hunpack, hword⟩ := unpack_ofInt_of_neg ha hloga
  obtain ⟨e', m', hunpack', hword'⟩ := unpack_ofInt_of_neg hb hlogb
  have hneg : StrictAnti fun k : Nat => -(k : Int) := fun i j h => by simpa using h
  rw [hunpack, hunpack', compare_normal, hword, hword', rounded_of_neg ha, rounded_of_neg hb]
  simp only
  rw [compare_nearestBits (Int.natAbs_ne_zero.mpr hb.ne) (Int.natAbs_ne_zero.mpr ha.ne) hlogb
    hloga, ← cmp_eq_compare, ← cmp_eq_compare]
  exact congrArg some (hneg.cmp_map_eq _ _).symm

/-- Nearest numbers are ordered as rounded numbers are. -/
theorem compare_ofInt {a b : Int} (hloga : a.natAbs.log2 ≤ 1022) (hlogb : b.natAbs.log2 ≤ 1022) :
    (ofInt a).toModel.unpack.compare (ofInt b).toModel.unpack =
      some (compare (rounded a) (rounded b)) := by
  have hlt (h : rounded a < rounded b) : compare (rounded a) (rounded b) = .lt :=
    compare_lt_iff_lt.mpr h
  have hgt (h : rounded b < rounded a) : compare (rounded a) (rounded b) = .gt :=
    compare_gt_iff_gt.mpr h
  have hzero : (ofInt 0).toModel.unpack = .zero .positive := rfl
  rcases lt_trichotomy a 0 with ha | rfl | ha
  · obtain ⟨_, _, hunpack, -⟩ := unpack_ofInt_of_neg ha hloga
    rcases lt_trichotomy b 0 with hb | rfl | hb
    · exact compare_ofInt_of_neg ha hb hloga hlogb
    · rw [hunpack, hzero, hlt (rounded_neg ha)]
      rfl
    · obtain ⟨_, _, hunpack', -⟩ := unpack_ofInt_of_pos hb hlogb
      rw [hunpack, hunpack', hlt ((rounded_neg ha).trans (rounded_pos hb))]
      rfl
  · rcases lt_trichotomy b 0 with hb | rfl | hb
    · obtain ⟨_, _, hunpack', -⟩ := unpack_ofInt_of_neg hb hlogb
      rw [hunpack', hzero, hgt (rounded_neg hb)]
      rfl
    · rfl
    · obtain ⟨_, _, hunpack', -⟩ := unpack_ofInt_of_pos hb hlogb
      rw [hunpack', hzero, hlt (rounded_pos hb)]
      rfl
  · obtain ⟨_, _, hunpack, -⟩ := unpack_ofInt_of_pos ha hloga
    rcases lt_trichotomy b 0 with hb | rfl | hb
    · obtain ⟨_, _, hunpack', -⟩ := unpack_ofInt_of_neg hb hlogb
      rw [hunpack, hunpack', hgt ((rounded_neg hb).trans (rounded_pos ha))]
      rfl
    · rw [hunpack, hzero, hgt (rounded_pos ha)]
      rfl
    · exact compare_ofInt_of_pos ha hb hloga hlogb

end ContractPress.Decimal
