import ContractPress.Helper.Comparison
import ContractPress.Proofs.Decimal.Nearest
import Mathlib.Data.String.Basic

/-!
The order that the comparison operators follow.

Equality is exact, and so is the order of texts. The order of whole numbers is that of the numbers
rounded to 53 bits, so that two which are rounded to one number are each at most the other and yet
not equal.
-/

namespace ContractPress.Comparison

open Template

/-- Two values compare as two members of a linear order do, and are equal as a condition says. -/
structure Follows {κ : Type} [LinearOrder κ] (l r : Value) (same : Prop) [Decidable same]
    (x y : κ) : Prop where
  equal : evaluate l "==" r = .ok (decide same)
  identical : evaluate l "===" r = .ok (decide same)
  different : evaluate l "!=" r = .ok (!decide same)
  less : evaluate l "<" r = .ok (decide (x < y))
  greater : evaluate l ">" r = .ok (decide (y < x))
  atMost : evaluate l "<=" r = .ok (decide (x ≤ y))
  atLeast : evaluate l ">=" r = .ok (decide (y ≤ x))

theorem follows_of_ordering {κ : Type} [LinearOrder κ] {l r : Value} {same : Prop}
    [Decidable same] {x y : κ} (hequal : Value.eq l r = decide same)
    (hordering : ordering l r = some (compare x y)) : Follows l r same x y := by
  have hless : evaluate l "<" r = .ok (decide (compare x y = .lt)) := by
    rw [evaluate, hordering]
    cases compare x y <;> rfl
  have hgreater : evaluate l ">" r = .ok (decide (compare x y = .gt)) := by
    rw [evaluate, hordering]
    cases compare x y <;> rfl
  have hatMost : evaluate l "<=" r = .ok (decide (compare x y ≠ .gt)) := by
    rw [evaluate, hordering]
    cases compare x y <;> rfl
  have hatLeast : evaluate l ">=" r = .ok (decide (compare x y ≠ .lt)) := by
    rw [evaluate, hordering]
    cases compare x y <;> rfl
  refine ⟨congrArg Except.ok hequal, congrArg Except.ok hequal,
    congrArg (fun b => Except.ok !b) hequal, hless.trans ?_, hgreater.trans ?_, hatMost.trans ?_,
    hatLeast.trans ?_⟩
  · simp only [compare_lt_iff_lt]
  · simp only [compare_gt_iff_gt]
  · simp only [ne_eq, compare_gt_iff_gt, not_lt]
  · simp only [ne_eq, compare_lt_iff_lt, not_lt]

theorem Follows.of_lt_iff {κ κ' : Type} [LinearOrder κ] [LinearOrder κ'] {l r : Value}
    {same : Prop} [Decidable same] {x y : κ} {x' y' : κ'} (h : Follows l r same x y)
    (hlt : x < y ↔ x' < y') (hgt : y < x ↔ y' < x') : Follows l r same x' y' where
  equal := h.equal
  identical := h.identical
  different := h.different
  less := by simp only [h.less, hlt]
  greater := by simp only [h.greater, hgt]
  atMost := by simp only [h.atMost, ← not_lt, hgt]
  atLeast := by simp only [h.atLeast, ← not_lt, hlt]

theorem Follows.less_trans {κ : Type} [LinearOrder κ] {l m r : Value} {same same' same'' : Prop}
    [Decidable same] [Decidable same'] [Decidable same''] {x y z : κ} (hlm : Follows l m same x y)
    (hmr : Follows m r same' y z) (hlr : Follows l r same'' x z) (h : evaluate l "<" m = .ok true)
    (h' : evaluate m "<" r = .ok true) : evaluate l "<" r = .ok true := by
  rw [hlm.less, Except.ok.injEq, decide_eq_true_eq] at h
  rw [hmr.less, Except.ok.injEq, decide_eq_true_eq] at h'
  rw [hlr.less, decide_eq_true (h.trans h')]

/-! ### Texts -/

/-- The code points of a text. -/
def codePoints (s : String) : List Nat :=
  s.toList.map Char.toNat

theorem codePoints_lt_iff {s t : String} : codePoints s < codePoints t ↔ s < t := by
  have hlist : ∀ cs ds : List Char, cs.map Char.toNat < ds.map Char.toNat ↔ cs < ds := by
    intro cs
    induction cs with
    | nil =>
      intro ds
      cases ds <;> simp
    | cons c cs ih =>
      intro ds
      cases ds with
      | nil => simp
      | cons d ds =>
        rw [List.map_cons, List.map_cons, List.cons_lt_cons_iff, List.cons_lt_cons_iff, ih,
          Char.toNat_inj]
        rfl
  rw [String.lt_iff_toList_lt]
  exact hlist _ _

theorem follows_string (s t : String) :
    Follows (.string s) (.string t) (s = t) (codePoints s) (codePoints t) := by
  refine follows_of_ordering rfl (congrArg some ?_)
  rcases lt_trichotomy s t with h | rfl | h
  · rw [compare_lt_iff_lt.mpr h, compare_lt_iff_lt.mpr (codePoints_lt_iff.mpr h)]
  · rw [compare_eq_iff_eq.mpr rfl, compare_eq_iff_eq.mpr rfl]
  · rw [compare_gt_iff_gt.mpr h, compare_gt_iff_gt.mpr (codePoints_lt_iff.mpr h)]

/-! ### Whole numbers -/

theorem orderFloats_of_compare {x y : Float} {o : Ordering}
    (h : x.toModel.unpack.compare y.toModel.unpack = some o)
    (h' : y.toModel.unpack.compare x.toModel.unpack = some o.swap) : orderFloats x y = some o := by
  have hlt : ∀ x y : Float, x < y ↔ x.toModel.unpack.compare y.toModel.unpack = some .lt := by
    intro x y
    exact decide_eq_true_iff.trans beq_iff_eq
  have heq : (x == y) = (x.toModel.unpack.compare y.toModel.unpack == some .eq) := rfl
  simp only [orderFloats, hlt, heq, h, h']
  cases o <;> rfl

theorem follows_integer {a b : Int} (ha : a.natAbs.log2 ≤ 1022) (hb : b.natAbs.log2 ≤ 1022) :
    Follows (.integer a) (.integer b) (a = b) (Decimal.rounded a) (Decimal.rounded b) := by
  refine follows_of_ordering rfl (orderFloats_of_compare (Decimal.compare_ofInt ha hb) ?_)
  rw [Decimal.compare_ofInt hb ha]
  exact congrArg some (Int.compare_swap _ _).symm

/-- Whole numbers follow their own order exactly if rounding keeps them apart. -/
theorem follows_integer_exactly_iff {a b : Int} (ha : a.natAbs.log2 ≤ 1022)
    (hb : b.natAbs.log2 ≤ 1022) : Follows (.integer a) (.integer b) (a = b) a b ↔
      (Decimal.rounded a = Decimal.rounded b → a = b) := by
  have hrounded := follows_integer ha hb
  constructor
  · intro hexact hsame
    have hle := hexact.atMost.symm.trans hrounded.atMost
    have hge := hexact.atLeast.symm.trans hrounded.atLeast
    simp only [hsame, le_refl, decide_true, Except.ok.injEq, decide_eq_true_eq] at hle hge
    exact le_antisymm hle hge
  · intro hapart
    have hlt : ∀ {a b : Int}, (Decimal.rounded a = Decimal.rounded b → a = b) →
        (Decimal.rounded a < Decimal.rounded b ↔ a < b) := by
      intro a b hapart
      refine ⟨fun h => lt_of_not_ge fun hge => h.not_ge (Decimal.rounded_mono hge), fun h => ?_⟩
      exact (Decimal.rounded_mono h.le).lt_of_ne fun hsame => h.ne (hapart hsame)
    exact hrounded.of_lt_iff (hlt hapart) (hlt fun h => (hapart h.symm).symm)

theorem log2_le_of_lt {n : Nat} (h : n < 2 ^ 128) : n.log2 ≤ 1022 := by
  by_cases hn : n = 0
  · rw [hn]
    decide
  · have := (Nat.log2_lt hn).mpr h
    omega

/-- Texts follow the order of their code points. Whole numbers of up to 128 bits follow the order of
the rounded numbers, so that `<` is transitive and the converse of `>`, but they follow their own
order exactly if rounding keeps them apart; it does where neither has more than 53 bits. Equality is
exact throughout. -/
theorem evaluate_follows (s t : String) {a b c : Int} (ha : a.natAbs < 2 ^ 128)
    (hb : b.natAbs < 2 ^ 128) (hc : c.natAbs < 2 ^ 128) :
    Follows (.string s) (.string t) (s = t) (codePoints s) (codePoints t) ∧
    Follows (.integer a) (.integer b) (a = b) (Decimal.rounded a) (Decimal.rounded b) ∧
    (Follows (.integer a) (.integer b) (a = b) a b ↔
      (Decimal.rounded a = Decimal.rounded b → a = b)) ∧
    (a.natAbs ≤ 2 ^ 53 → b.natAbs ≤ 2 ^ 53 → Follows (.integer a) (.integer b) (a = b) a b) ∧
    evaluate (.integer a) "<" (.integer b) = evaluate (.integer b) ">" (.integer a) ∧
    (evaluate (.integer a) "<" (.integer b) = .ok true →
      evaluate (.integer b) "<" (.integer c) = .ok true →
      evaluate (.integer a) "<" (.integer c) = .ok true) := by
  have hab := follows_integer (log2_le_of_lt ha) (log2_le_of_lt hb)
  have hba := follows_integer (log2_le_of_lt hb) (log2_le_of_lt ha)
  have hbc := follows_integer (log2_le_of_lt hb) (log2_le_of_lt hc)
  have hac := follows_integer (log2_le_of_lt ha) (log2_le_of_lt hc)
  refine ⟨follows_string s t, hab,
    follows_integer_exactly_iff (log2_le_of_lt ha) (log2_le_of_lt hb), fun ha' hb' => ?_, ?_,
    hab.less_trans hbc hac⟩
  · rwa [Decimal.rounded_eq_self ha', Decimal.rounded_eq_self hb'] at hab
  · rw [hab.less, hba.greater]

/-- The least and the greatest number of 64 bits follow their own order. -/
theorem limits_follow :
    Follows (.integer (-2 ^ 63)) (.integer (2 ^ 63 - 1)) ((-2 ^ 63 : Int) = 2 ^ 63 - 1)
      (-2 ^ 63 : Int) (2 ^ 63 - 1 : Int) ∧
    evaluate (.string "Z") "<" (.string "a") = .ok true := by
  obtain ⟨htexts, -, hexactly, -⟩ := evaluate_follows "Z" "a" (a := -2 ^ 63) (b := 2 ^ 63 - 1)
    (c := 0) (by decide) (by decide) (by decide)
  exact ⟨hexactly.mpr (by decide), htexts.less⟩

/-- Of two numbers that are rounded to one, the greater counts as at most the other, although it
counts neither as less nor as equal. -/
theorem adjacent_integers_unordered :
    let l := Value.integer (2 ^ 53 + 1)
    let r := Value.integer (2 ^ 53)
    evaluate l "<=" r = .ok true ∧ evaluate l "<" r = .ok false ∧ evaluate l "==" r = .ok false ∧
      evaluate l ">" r = .ok false :=
  ⟨rfl, rfl, rfl, rfl⟩

end ContractPress.Comparison
