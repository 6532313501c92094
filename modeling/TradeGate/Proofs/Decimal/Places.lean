import TradeGate.Proofs.Decimal.Arith
import Mathlib.Algebra.Order.Floor.Semifield

/-!
# Rounding to a decimal place

To round a result to a decimal place stops exactly where there are more than 28 digits down to
that place; everywhere else it gives the nearest multiple of the place, a half going away from
zero.
-/

namespace TradeGate.Decimal

/-- How often the unit of a place goes into the magnitude of a number, to the nearest, a half
going up. -/
def unitsAt (last : ℤ) (x : ℚ) : ℕ := ⌊|x| / 10 ^ last + 1 / 2⌋₊

/-- A decimal whose last digit is not behind a place is a whole number of units of it. -/
theorem unitsAt_of_le
    (s : Bool) (c : Nat) {e last : ℤ} (h : last ≤ e) :
  unitsAt last (finite s c e).value = c * tenTo (e - last).toNat
  := by
  rw [unitsAt, abs_value, ← cast_mul_tenTo c h, mul_div_cancel_right₀ _ (by positivity)]
  rw [add_comm, Nat.floor_add_natCast (by norm_num)]
  norm_num

/-- Dropping digits rounds to the nearest, a half going up. -/
theorem dropDigits_awayFromZero
    (n k : Nat) :
  dropDigits .awayFromZero n k = (2 * n + tenTo k) / (2 * tenTo k)
  := by
  symm
  by_cases hk : digitCount n < k
  · have hn := lt_tenTo_digitCount n
    have hmul : tenTo (digitCount n) * 10 ≤ tenTo k := by
      rw [← tenTo_succ]
      exact Nat.pow_le_pow_right (by norm_num) hk
    rw [dropDigits, if_pos hk]
    exact Nat.div_eq_of_lt (by omega)
  · have hpos := tenTo_pos k
    have hdiv := Nat.div_add_mod n (tenTo k)
    have hmod := Nat.mod_lt n hpos
    simp only [dropDigits, if_neg hk]
    generalize n / tenTo k = q at *
    generalize n % tenTo k = r at *
    have hn : 2 * n + tenTo k = 2 * tenTo k * q + (2 * r + tenTo k) := by
      rw [← hdiv]
      ring
    rw [hn, Nat.mul_add_div (by omega)]
    obtain hlt | hge := lt_or_ge (2 * r) (tenTo k)
    · rw [if_pos hlt, Nat.div_eq_of_lt (by omega), add_zero]
    · have hone : (2 * r + tenTo k) / (2 * tenTo k) = 1 :=
        Nat.div_eq_of_lt_le (by omega) (by omega)
      rw [if_neg hge.not_gt, hone, ite_self]

/-- A decimal that has digits behind a place is rounded by dropping them. -/
theorem unitsAt_of_lt
    (s : Bool) (c : Nat) {e last : ℤ} (h : e < last) :
  unitsAt last (finite s c e).value = dropDigits .awayFromZero c (last - e).toNat
  := by
  have hunits : (c : ℚ) * 10 ^ e / 10 ^ last + 1 / 2
      = ((2 * c + tenTo (last - e).toNat : ℕ) : ℚ) / (2 * tenTo (last - e).toNat : ℕ) := by
    push_cast
    rw [cast_tenTo, Int.toNat_of_nonneg (by omega), zpow_sub₀ (by norm_num)]
    field_simp
  rw [unitsAt, abs_value, hunits, Nat.floor_div_eq_div, dropDigits_awayFromZero]

/-- A number reaches a power of ten if its leading digit does. -/
theorem zpow_le_iff_le_leading
    {c : Nat} (hc : 0 < c) (e k : ℤ) :
  (10 : ℚ) ^ k ≤ c * 10 ^ e ↔ k ≤ leading c e
  := by
  have hpos : (0 : ℚ) < c * 10 ^ e := by positivity
  rw [← log_eq_leading hc e]
  exact_mod_cast Int.zpow_le_iff_le_log (b := 10) (by norm_num) hpos

/-- A result that is below ten to the power 28 at a place has at most 28 digits down to the place,
also after it is rounded: digits are dropped only where there are fewer than 28 of them left. -/
theorem digitCount_unitsAt_le
    {s : Bool} {c : Nat} {e : ℤ} (h : IsResult (finite s c e)) {last : ℤ}
    (hlt : (c : ℚ) * 10 ^ e < 10 ^ (last + precision)) :
  digitCount (unitsAt last (finite s c e).value) ≤ precision
  := by
  rw [digitCount_le_iff (by decide)]
  obtain hle | hgt := le_or_gt last e
  · rw [unitsAt_of_le s c hle]
    rw [← cast_mul_tenTo c hle, add_comm, zpow_add₀ (by norm_num), ← cast_tenTo] at hlt
    exact_mod_cast lt_of_mul_lt_mul_right hlt (by positivity)
  · obtain ⟨k, hk⟩ : ∃ k, (last - e).toNat = k + 1 := ⟨(last - e).toNat - 1, by omega⟩
    have hc : c < tenTo precision := h.1
    have hdrop : tenTo precision ≤ tenTo precision * tenTo k :=
      Nat.le_mul_of_pos_right _ (tenTo_pos k)
    have hunit : tenTo k ≤ tenTo precision * tenTo k := Nat.le_mul_of_pos_left _ (tenTo_pos _)
    rw [unitsAt_of_lt s c hgt, dropDigits_awayFromZero, hk, tenTo_succ]
    apply Nat.div_lt_of_lt_mul
    calc 2 * c + tenTo k * 10 < 20 * (tenTo precision * tenTo k) := by omega
      _ = 2 * (tenTo k * 10) * tenTo precision := by ring

/-- A result is rounded to the nearest multiple of a place, unless there are too many digits down
to the place. -/
theorem roundTo_of_isResult
    {s : Bool} {c : Nat} {e : ℤ} (h : IsResult (finite s c e)) (last : ℤ) :
  roundTo last (finite s c e)
    = if |(finite s c e).value| < 10 ^ (last + precision)
      then .ok (finite s (unitsAt last (finite s c e).value) last)
      else .error .invalidOperation
  := by
  obtain rfl | hc := Nat.eq_zero_or_pos c
  · have hpos : (0 : ℚ) < 10 ^ (last + precision) := by positivity
    have hzero : unitsAt last 0 = 0 := by norm_num [unitsAt]
    rw [value_finite_zero, abs_zero, if_pos hpos, hzero]
    rfl
  have hround : roundTo last (finite s c e)
      = if precision < leading c e - last + 1 then .error .invalidOperation
        else if precision < digitCount (unitsAt last (finite s c e).value)
          then .error .invalidOperation
          else .ok (finite s (unitsAt last (finite s c e).value) last) := by
    have hunits : (if last ≤ e then c * tenTo (e - last).toNat
        else dropDigits .awayFromZero c (last - e).toNat)
          = unitsAt last (finite s c e).value := by
      split_ifs with hle
      · rw [unitsAt_of_le s c hle]
      · rw [unitsAt_of_lt s c (by omega)]
    rw [← hunits]
    obtain ⟨n, rfl⟩ := Nat.exists_eq_succ_of_ne_zero hc.ne'
    rfl
  have hreach := zpow_le_iff_le_leading hc e (last + precision)
  rw [hround]
  by_cases hlarge : (10 : ℚ) ^ (last + precision) ≤ c * 10 ^ e
  · have hleading := hreach.mp hlarge
    rw [abs_value, if_neg hlarge.not_gt, if_pos (by omega)]
  · have hleading := mt hreach.mpr hlarge
    rw [not_le] at hlarge
    have hfew := digitCount_unitsAt_le h hlarge
    rw [abs_value, if_pos hlarge, if_neg (by omega), if_neg hfew.not_gt]

end TradeGate.Decimal
