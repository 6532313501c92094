import TradeGate.Decimal.Arith
import Mathlib.Algebra.Order.Field.Power
import Mathlib.Data.Int.Log
import Mathlib.Data.Rat.Floor
import Mathlib.Tactic.Linarith
import Mathlib.Tactic.Positivity
import Mathlib.Tactic.Ring

/-!
# Values of decimals

A finite decimal stands for a rational number.  Its leading digit tells between which powers
of ten that number lies, and so comparing two finite decimals, which looks at the leading
digits first, compares their values.
-/

namespace TradeGate

/-! ### Powers and digits -/

theorem cast_tenTo
    (n : Nat) :
  (tenTo n : ℚ) = 10 ^ (n : ℤ)
  := by
  rw [tenTo, Nat.pow_eq, Nat.cast_pow, Nat.cast_ofNat, zpow_natCast]

/-- Digits that are moved behind a number are taken off its exponent. -/
theorem cast_mul_tenTo
    (c : Nat) {e last : ℤ} (h : last ≤ e) :
  ((c * tenTo (e - last).toNat : Nat) : ℚ) * 10 ^ last = c * 10 ^ e
  := by
  rw [Nat.cast_mul, cast_tenTo, mul_assoc, ← zpow_add₀ (by norm_num),
    Int.toNat_of_nonneg (by omega)]
  congr 2
  omega

namespace Decimal

theorem digitCount_eq
    (n : Nat) :
  digitCount n = Nat.log 10 n + 1
  := by
  induction n using Nat.strong_induction_on with
  | _ n ih =>
    unfold digitCount
    by_cases hn : n < 10
    · rw [if_pos hn, Nat.log_of_lt hn]
    · have hlog : Nat.log 10 n = Nat.log 10 (n / 10) + 1 :=
        Nat.log_of_one_lt_of_le (by norm_num) (by omega)
      rw [if_neg hn, ih (n / 10) (by omega), hlog]

theorem lt_tenTo_digitCount
    (n : Nat) :
  n < tenTo (digitCount n)
  := by
  rw [digitCount_eq]
  exact Nat.lt_pow_succ_log_self (by norm_num) n

theorem tenTo_le_of_pos
    {n : Nat} (hn : 0 < n) :
  tenTo (digitCount n - 1) ≤ n
  := by
  rw [digitCount_eq]
  exact Nat.pow_log_le_self 10 hn.ne'

/-- A number has at most `k` digits if it is below the `k`-th power of ten. -/
theorem digitCount_le_iff
    {n k : Nat} (hk : 0 < k) :
  digitCount n ≤ k ↔ n < tenTo k
  := by
  rw [digitCount_eq, Nat.succ_le_iff, tenTo, Nat.pow_eq]
  by_cases hn : n = 0
  · simp [hn, hk]
  · exact Nat.log_lt_iff_lt_pow (by norm_num) hn

/-! ### Values -/

/-- The number that a finite decimal stands for. -/
def value : Decimal → ℚ
  | finite s c e => (signed s c : ℚ) * 10 ^ e
  | infinity _ | nan .. => 0

theorem value_of_not_isFinite
    {x : Decimal} (hx : ¬ x.isFinite = true) :
  x.value = 0
  := by
  cases x with
  | finite s c e => exact absurd rfl hx
  | infinity s => rfl
  | nan s g p => rfl

@[simp]
theorem value_positive
    (c : Nat) (e : ℤ) :
  (finite false c e).value = c * 10 ^ e
  := by
  simp [value, signed]

@[simp]
theorem value_negative
    (c : Nat) (e : ℤ) :
  (finite true c e).value = - (c * 10 ^ e)
  := by
  simp [value, signed]

@[simp]
theorem value_finite_zero
    (s : Bool) (e : ℤ) :
  (finite s 0 e).value = 0
  := by
  simp [value, signed]

theorem value_zero :
  zero.value = 0
  := value_finite_zero _ _

/-- A sign and a magnitude make up a whole number. -/
theorem signed_natAbs
    (n : Int) :
  signed (decide (n < 0)) n.natAbs = n
  := by
  by_cases hn : n < 0
  · simp only [signed, hn, decide_true, if_true]
    omega
  · simp only [signed, hn, decide_false, Bool.false_eq_true, if_false]
    omega

@[simp]
theorem value_ofInt
    (n : Int) :
  (ofInt n).value = n
  := by
  rw [ofInt, value, signed_natAbs, zpow_zero, mul_one]

@[simp]
theorem value_negate
    (x : Decimal) :
  x.negate.value = - x.value
  := by
  cases x with
  | finite s c e => cases s <;> simp [negate, value, signed]
  | infinity s => simp [negate, value]
  | nan s g p => simp [negate, value]

theorem abs_value
    (s : Bool) (c : Nat) (e : ℤ) :
  |(finite s c e).value| = c * 10 ^ e
  := by
  have hpos : (0 : ℚ) ≤ c * 10 ^ e := by positivity
  cases s
  · rw [value_positive, abs_of_nonneg hpos]
  · rw [value_negative, abs_neg, abs_of_nonneg hpos]

@[simp]
theorem isFinite_negate
    (x : Decimal) :
  x.negate.isFinite = x.isFinite
  := by
  cases x <;> rfl

/-! ### Magnitudes -/

/-- The power of ten of the leading digit bounds a number from below. -/
theorem le_of_leading
    {c : Nat} (hc : 0 < c) (e : ℤ) :
  (10 : ℚ) ^ leading c e ≤ c * 10 ^ e
  := by
  have hle : (tenTo (digitCount c - 1) : ℚ) ≤ c := by exact_mod_cast tenTo_le_of_pos hc
  have hpos := digitCount_pos c
  rw [cast_tenTo] at hle
  calc (10 : ℚ) ^ leading c e = 10 ^ ((digitCount c - 1 : Nat) : ℤ) * 10 ^ e := by
        rw [← zpow_add₀ (by norm_num), leading]
        congr 1
        omega
    _ ≤ c * 10 ^ e := by
        apply mul_le_mul_of_nonneg_right hle
        positivity

/-- The next power of ten bounds it from above. -/
theorem lt_of_leading
    (c : Nat) (e : ℤ) :
  (c : ℚ) * 10 ^ e < 10 ^ (leading c e + 1)
  := by
  have hlt : (c : ℚ) < tenTo (digitCount c) := by exact_mod_cast lt_tenTo_digitCount c
  rw [cast_tenTo] at hlt
  calc (c : ℚ) * 10 ^ e < 10 ^ (digitCount c : ℤ) * 10 ^ e := by
        apply mul_lt_mul_of_pos_right hlt
        positivity
    _ = 10 ^ (leading c e + 1) := by
        rw [← zpow_add₀ (by norm_num), leading]
        congr 1
        ring

/-- The powers of ten around a number tell its logarithm. -/
theorem log_eq_of_zpow_le_of_lt
    {x : ℚ} {k : ℤ} (hlow : 10 ^ k ≤ x) (hhigh : x < 10 ^ (k + 1)) :
  Int.log 10 x = k
  := by
  have hpos : 0 < x := lt_of_lt_of_le (by positivity) hlow
  have hle : k ≤ Int.log 10 x :=
    (Int.zpow_le_iff_le_log (by norm_num) hpos).mp (by exact_mod_cast hlow)
  have hlt : Int.log 10 x < k + 1 :=
    (Int.lt_zpow_iff_log_lt (by norm_num) hpos).mp (by exact_mod_cast hhigh)
  omega

/-- The leading digit is found by the logarithm. -/
theorem log_eq_leading
    {c : Nat} (hc : 0 < c) (e : ℤ) :
  Int.log 10 ((c : ℚ) * 10 ^ e) = leading c e
  := log_eq_of_zpow_le_of_lt (le_of_leading hc e) (lt_of_leading c e)

/-- A number is the smaller one where its leading digit is further back. -/
theorem lt_of_leading_lt
    (c₁ : Nat) (e₁ : ℤ) {c₂ : Nat} (hc : 0 < c₂) {e₂ : ℤ} (h : leading c₁ e₁ < leading c₂ e₂) :
  (c₁ : ℚ) * 10 ^ e₁ < c₂ * 10 ^ e₂
  := by
  calc (c₁ : ℚ) * 10 ^ e₁ < 10 ^ (leading c₁ e₁ + 1) := lt_of_leading c₁ e₁
    _ ≤ 10 ^ leading c₂ e₂ := zpow_le_zpow_right₀ (by norm_num) (by omega)
    _ ≤ c₂ * 10 ^ e₂ := le_of_leading hc e₂

/-! ### Order -/

/-- Two positive numbers are compared by their leading digits, and by their coefficients at
one exponent where these are in the same place. -/
theorem compareMagnitude_eq
    {c₁ c₂ : Nat} (h₁ : 0 < c₁) (h₂ : 0 < c₂) (e₁ e₂ : ℤ) :
  compareMagnitude c₁ e₁ c₂ e₂ = compare ((c₁ : ℚ) * 10 ^ e₁) (c₂ * 10 ^ e₂)
  := by
  unfold compareMagnitude
  obtain hlt | heq | hgt := lt_trichotomy (leading c₁ e₁) (leading c₂ e₂)
  · rw [compare_lt_iff_lt.mpr hlt]
    exact (compare_lt_iff_lt.mpr (lt_of_leading_lt c₁ e₁ h₂ hlt)).symm
  · rw [compare_eq_iff_eq.mpr heq]
    have hmono : StrictMono fun n : ℕ => (n : ℚ) * 10 ^ min e₁ e₂ := by
      intro m n hmn
      exact mul_lt_mul_of_pos_right (by exact_mod_cast hmn) (by positivity)
    have hcmp := hmono.cmp_map_eq (c₁ * tenTo (e₁ - e₂).toNat) (c₂ * tenTo (e₂ - e₁).toNat)
    rw [cmp_eq_compare, cmp_eq_compare] at hcmp
    rw [← hcmp]
    obtain hle | hle := le_total e₁ e₂
    · rw [min_eq_left hle, cast_mul_tenTo c₂ hle, Int.toNat_of_nonpos (by omega : e₁ - e₂ ≤ 0),
        tenTo_zero, mul_one]
    · rw [min_eq_right hle, cast_mul_tenTo c₁ hle, Int.toNat_of_nonpos (by omega : e₂ - e₁ ≤ 0),
        tenTo_zero, mul_one]
  · rw [compare_gt_iff_gt.mpr hgt]
    exact (compare_gt_iff_gt.mpr (lt_of_leading_lt c₂ e₂ h₁ hgt)).symm

/-- Finite decimals are compared as the numbers that they stand for. -/
theorem compareFinite_eq
    (s₁ : Bool) (c₁ : Nat) (e₁ : ℤ) (s₂ : Bool) (c₂ : Nat) (e₂ : ℤ) :
  compareFinite s₁ c₁ e₁ s₂ c₂ e₂ = compare (finite s₁ c₁ e₁).value (finite s₂ c₂ e₂).value
  := by
  have hpos {c : Nat} (hc : c ≠ 0) (e : ℤ) : (0 : ℚ) < c * 10 ^ e := by
    have hc' := Nat.pos_of_ne_zero hc
    positivity
  have hneg {c : Nat} (hc : c ≠ 0) (e : ℤ) : -((c : ℚ) * 10 ^ e) < 0 :=
    neg_lt_zero.mpr (hpos hc e)
  unfold compareFinite
  by_cases h₁ : c₁ = 0 <;> by_cases h₂ : c₂ = 0
  · subst h₁ h₂
    rw [value_finite_zero, value_finite_zero]
    exact (compare_eq_iff_eq.mpr rfl).symm
  · subst h₁
    rw [value_finite_zero, if_pos rfl, if_neg h₂]
    cases s₂
    · rw [value_positive]
      exact (compare_lt_iff_lt.mpr (hpos h₂ e₂)).symm
    · rw [value_negative]
      exact (compare_gt_iff_gt.mpr (hneg h₂ e₂)).symm
  · subst h₂
    rw [value_finite_zero, if_neg h₁, if_pos rfl]
    cases s₁
    · rw [value_positive]
      exact (compare_gt_iff_gt.mpr (hpos h₁ e₁)).symm
    · rw [value_negative]
      exact (compare_lt_iff_lt.mpr (hneg h₁ e₁)).symm
  · rw [if_neg h₁, if_neg h₂]
    cases s₁ <;> cases s₂
    · rw [value_positive, value_positive]
      exact compareMagnitude_eq (Nat.pos_of_ne_zero h₁) (Nat.pos_of_ne_zero h₂) e₁ e₂
    · rw [value_positive, value_negative]
      exact (compare_gt_iff_gt.mpr ((hneg h₂ e₂).trans (hpos h₁ e₁))).symm
    · rw [value_negative, value_positive]
      exact (compare_lt_iff_lt.mpr ((hneg h₁ e₁).trans (hpos h₂ e₂))).symm
    · rw [value_negative, value_negative]
      have hanti : StrictAnti fun x : ℚ => -x := fun _ _ => neg_lt_neg
      have hcmp := hanti.cmp_map_eq ((c₁ : ℚ) * 10 ^ e₁) (c₂ * 10 ^ e₂)
      rw [cmp_eq_compare, cmp_eq_compare] at hcmp
      rw [hcmp]
      exact compareMagnitude_eq (Nat.pos_of_ne_zero h₂) (Nat.pos_of_ne_zero h₁) e₂ e₁

theorem order_of_finite
    {x y : Decimal} (hx : x.isFinite = true) (hy : y.isFinite = true) :
  order x y = .ok (compare x.value y.value)
  := by
  cases x <;> cases y <;> simp only [isFinite, Bool.false_eq_true] at hx hy
  simp only [order, order?, compareFinite_eq]

/-- Finite decimals are less or not as the numbers that they stand for. -/
theorem less_of_finite
    {x y : Decimal} (hx : x.isFinite = true) (hy : y.isFinite = true) :
  less x y = .ok (decide (x.value < y.value))
  := by
  have hlt : (compare x.value y.value == .lt) = decide (x.value < y.value) := by
    rw [Bool.eq_iff_iff, beq_iff_eq, compare_lt_iff_lt, decide_eq_true_iff]
  rw [less, order_of_finite hx hy]
  exact congrArg Except.ok hlt

theorem atMost_of_finite
    {x y : Decimal} (hx : x.isFinite = true) (hy : y.isFinite = true) :
  atMost x y = .ok (decide (x.value ≤ y.value))
  := by
  have hle : (compare x.value y.value != .gt) = decide (x.value ≤ y.value) := by
    rw [Bool.eq_iff_iff, bne_iff_ne, compare_le_iff_le, decide_eq_true_iff]
  rw [atMost, order_of_finite hx hy]
  exact congrArg Except.ok hle

end Decimal

end TradeGate
