import TradeGate.Proofs.Decimal.Rounding

/-!
# Numbers of at most 28 digits

A number of at most 28 digits is rounded to itself, and rounding moves no number across it, unless
digits are lost at the least exponent.
-/

namespace TradeGate.Decimal

/-- A number that at most 28 digits and some exponent make up. -/
def HasDigits (x : ℚ) : Prop :=
  ∃ n k : ℤ, |n| < tenTo precision ∧ x = n * 10 ^ k

theorem HasDigits.neg
    {x : ℚ} (h : HasDigits x) :
  HasDigits (-x)
  := by
  obtain ⟨n, k, hn, rfl⟩ := h
  use -n, k, (abs_neg n).trans_lt hn
  rw [Int.cast_neg, neg_mul]

/-- A hundredth of a number has the digits of the number. -/
theorem HasDigits.div_hundred
    {x : ℚ} (h : HasDigits x) :
  HasDigits (x / 100)
  := by
  obtain ⟨n, k, hn, rfl⟩ := h
  use n, k - 2, hn
  rw [zpow_sub₀ (by norm_num), mul_div_assoc]
  norm_num

/-- Between a number of at most 28 digits and one that is not too small there is a multiple of the
last place of the latter. -/
theorem HasDigits.exists_multiple
    {m x : ℚ} (hm : HasDigits m) (hle : m ≤ x) (hlarge : 10 ^ (minLast + precision - 1) ≤ |x|) :
  ∃ j : ℤ, m ≤ j * 10 ^ lastPlace x ∧ j * 10 ^ lastPlace x ≤ x
  := by
  obtain ⟨n, k, hn, rfl⟩ := hm
  obtain ⟨hplace, hlog⟩ := lastPlace_of_large hlarge
  obtain hk | hk := le_or_gt (lastPlace x) k
  · obtain ⟨j, hj⟩ := exists_eq_mul (x := n * 10 ^ k) rfl hk
    rw [hj] at hle ⊢
    use j
  · -- the number of at most 28 digits is below the leading digit of the other one
    have hbelow : |(n * 10 ^ k : ℚ)| < 10 ^ Int.log 10 |x| :=
      (abs_lt_of_digits hn k).trans_le (zpow_le_zpow_right₀ (by norm_num) (by omega))
    obtain ⟨j, hj⟩ : ∃ j : ℤ, (10 : ℚ) ^ Int.log 10 |x| = j * 10 ^ lastPlace x := by
      have hleading : lastPlace x ≤ Int.log 10 |x| := by
        rw [hplace]
        norm_num [precision]
      exact exists_eq_mul (n := 1) (by rw [Int.cast_one, one_mul]) hleading
    have hpos : 0 < x := by
      by_contra hneg
      rw [abs_lt] at hbelow
      rw [abs_of_nonpos (not_lt.mp hneg)] at hbelow hlog
      linarith
    use j
    rw [← hj]
    use ((le_abs_self _).trans_lt hbelow).le
    exact hlog.trans_eq (abs_of_pos hpos)

/-- No digits are lost of a number that is not too small. -/
theorem not_underflows
    {x y : ℚ} {k : ℤ} (hk : minLast + precision - 1 ≤ k) (h : 10 ^ k ≤ |x|) :
  ¬ Underflows x y
  := by
  rintro ⟨hsmall, -⟩
  exact absurd h (hsmall.trans_le (zpow_le_zpow_right₀ (by norm_num) hk)).not_ge

namespace RoundsTo

variable {x y m : ℚ}

/-- A multiple of the last place that is not above a number is not above what the number is
rounded to. -/
theorem le_of_multiple
    (h : RoundsTo x y) {j : ℤ} (hle : j * 10 ^ lastPlace x ≤ x) :
  j * 10 ^ lastPlace x ≤ y
  := by
  have hunit : (0 : ℚ) < 10 ^ lastPlace x := by positivity
  obtain ⟨n, hn, -⟩ := h.multiple
  by_contra hlt
  rw [not_le, hn] at hlt
  have hnext : ((n + 1 : ℤ) : ℚ) * 10 ^ lastPlace x ≤ j * 10 ^ lastPlace x := by
    have hnj : n < j := by exact_mod_cast lt_of_mul_lt_mul_right hlt hunit.le
    exact mul_le_mul_of_nonneg_right (by exact_mod_cast hnj) hunit.le
  have hnear := h.near
  rw [Int.cast_add, Int.cast_one, add_mul, one_mul, ← hn] at hnext
  rw [abs_sub_comm, abs_of_pos (by linarith)] at hnear
  linarith

/-- Rounding does not move a number below one of at most 28 digits. -/
theorem le_of_hasDigits
    (h : RoundsTo x y) (hkeeps : ¬ Underflows x y) (hm : HasDigits m) (hle : m ≤ x) :
  m ≤ y
  := by
  obtain hsmall | hlarge := lt_or_ge |x| (10 ^ (minLast + precision - 1))
  · have heq : y = x := by
      by_contra hne
      exact hkeeps ⟨hsmall, hne⟩
    rwa [heq]
  · obtain ⟨j, hmj, hjx⟩ := hm.exists_multiple hle hlarge
    exact hmj.trans (h.le_of_multiple hjx)

/-- A number of at most 28 digits is rounded to itself. -/
theorem eq_of_hasDigits
    (h : RoundsTo x y) (hkeeps : ¬ Underflows x y) (hx : HasDigits x) :
  y = x
  := by
  have hneg : ¬ Underflows (-x) (-y) := by
    rw [Underflows, abs_neg, ne_eq, neg_inj]
    exact hkeeps
  have hle := h.le_of_hasDigits hkeeps hx le_rfl
  have hge := h.neg.le_of_hasDigits hneg hx.neg le_rfl
  linarith

end RoundsTo

end TradeGate.Decimal
