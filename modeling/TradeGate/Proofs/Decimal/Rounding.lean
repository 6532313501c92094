import TradeGate.Proofs.Decimal.Value
import Mathlib.Algebra.Group.Int.Even
import Mathlib.Algebra.Order.Ring.Abs
import Mathlib.Tactic.FieldSimp

/-!
# Correct rounding

A number is rounded to its last place: the 28th digit from its leading one, or the least
exponent of results if that comes first.  The rounded number is the multiple of that place
that is nearest, a half going to the even multiple.  Rounding keeps signs and representable
numbers, and changes no number by more than a part of `unitRoundoff` of it, unless the number
is so small that digits are lost at the least exponent.  What `fit` gives is rounded
correctly.
-/

namespace TradeGate.Decimal

/-- The exponent of the last digit that is kept of a number. -/
def lastPlace (x : ℚ) : ℤ := max (Int.log 10 |x| + 1 - precision) minLast

/-- The number `y` is `x` rounded to the last place, half to even. -/
structure RoundsTo (x y : ℚ) : Prop where
  near : 2 * |y - x| ≤ 10 ^ lastPlace x
  multiple : ∃ n : ℤ, y = n * 10 ^ lastPlace x ∧ (2 * |y - x| = 10 ^ lastPlace x → Even n)

/-- The largest part of a number that rounding changes it by. -/
def unitRoundoff : ℚ := 5 / 10 ^ 28

/-- Digits are lost at the least exponent when `x` becomes `y`. -/
def Underflows (x y : ℚ) : Prop := |x| < 10 ^ (minLast + precision - 1) ∧ y ≠ x

/-- A decimal that an operation can give: of at most 28 digits, and with an exponent that is
not below the least. -/
def IsResult : Decimal → Prop
  | finite _ c e => c < tenTo precision ∧ minLast ≤ e
  | infinity _ | nan .. => False

theorem IsResult.isFinite
    {x : Decimal} (hx : x.IsResult) :
  x.isFinite = true
  := by
  cases x with
  | finite s c e => rfl
  | infinity s => exact hx.elim
  | nan s g p => exact hx.elim

/-! ### The last place -/

theorem lastPlace_neg
    (x : ℚ) :
  lastPlace (-x) = lastPlace x
  := by
  rw [lastPlace, abs_neg, lastPlace]

/-- The last place is counted from the leading digit. -/
theorem lastPlace_eq
    {c : Nat} (hc : 0 < c) (e : ℤ) :
  lastPlace (c * 10 ^ e) = max (e + digitCount c - precision) minLast
  := by
  have hpos : (0 : ℚ) ≤ c * 10 ^ e := by positivity
  rw [lastPlace, abs_of_nonneg hpos, log_eq_leading hc, leading]
  congr 1
  ring

/-- A number below ten to the power `k + 28` is not cut before the exponent `k`. -/
theorem lastPlace_le
    {x : ℚ} (hx : x ≠ 0) {k : ℤ} (hk : minLast ≤ k) (hlt : |x| < 10 ^ (k + precision)) :
  lastPlace x ≤ k
  := by
  have hlog : Int.log 10 |x| < k + precision :=
    (Int.lt_zpow_iff_log_lt (by norm_num) (abs_pos.mpr hx)).mp (by exact_mod_cast hlt)
  apply max_le _ hk
  omega

/-- A number that is not too small is cut after its 28th digit. -/
theorem lastPlace_of_large
    {x : ℚ} (h : 10 ^ (minLast + precision - 1) ≤ |x|) :
  lastPlace x = Int.log 10 |x| + (1 - precision) ∧ 10 ^ Int.log 10 |x| ≤ |x|
  := by
  have hpos : 0 < |x| := lt_of_lt_of_le (by positivity) h
  have hlog : minLast + precision - 1 ≤ Int.log 10 |x| :=
    (Int.zpow_le_iff_le_log (by norm_num) hpos).mp (by exact_mod_cast h)
  constructor
  · rw [lastPlace, max_eq_left (by omega)]
    ring
  · exact_mod_cast Int.zpow_log_le_self (by norm_num) hpos

/-- Digits before a place make up a multiple of it. -/
theorem exists_eq_mul
    {x : ℚ} {n k p : ℤ} (hx : x = n * 10 ^ k) (hk : p ≤ k) :
  ∃ m : ℤ, x = m * 10 ^ p
  := by
  use n * tenTo (k - p).toNat
  rw [Int.cast_mul, Int.cast_natCast, cast_tenTo, Int.toNat_of_nonneg (by omega), mul_assoc,
    ← zpow_add₀ (by norm_num), sub_add_cancel, hx]

/-- At most 28 digits stay below the 28th power of ten from their exponent. -/
theorem abs_lt_of_digits
    {n : ℤ} (hn : |n| < tenTo precision) (k : ℤ) :
  |(n * 10 ^ k : ℚ)| < 10 ^ (k + precision)
  := by
  have hn' : |(n : ℚ)| < tenTo precision := by exact_mod_cast hn
  have hpow : (0 : ℚ) < 10 ^ k := by positivity
  rw [cast_tenTo] at hn'
  rw [abs_mul, abs_of_pos hpow, add_comm, zpow_add₀ (by norm_num)]
  exact mul_lt_mul_of_pos_right hn' hpow

/-! ### Properties of rounded numbers -/

namespace RoundsTo

variable {x y : ℚ}

theorem neg
    (h : RoundsTo x y) :
  RoundsTo (-x) (-y)
  := by
  have habs : |-y - -x| = |y - x| := by rw [neg_sub_neg, abs_sub_comm]
  constructor
  · rw [habs, lastPlace_neg]
    exact h.near
  · obtain ⟨n, hn, heven⟩ := h.multiple
    use -n
    rw [habs, lastPlace_neg, hn, Int.cast_neg, neg_mul, even_neg, ← hn]
    exact ⟨rfl, heven⟩

theorem neg_left_iff :
  RoundsTo (-x) y ↔ RoundsTo x (-y)
  := by
  constructor
  · intro h
    simpa using h.neg
  · intro h
    simpa using h.neg

/-- A multiple of the last place that is nearer than half of it is what a number is rounded
to. -/
theorem of_lt
    {n : ℤ} (hn : y = n * 10 ^ lastPlace x) (hlt : 2 * |y - x| < 10 ^ lastPlace x) :
  RoundsTo x y
  := by
  constructor
  · exact hlt.le
  · use n, hn
    intro htie
    exact absurd htie hlt.ne

/-- A number without digits behind its last place is rounded to itself. -/
theorem refl
    {m : ℤ} (hx : x = m * 10 ^ lastPlace x) :
  RoundsTo x x
  := by
  apply of_lt hx
  rw [sub_self, abs_zero, mul_zero]
  positivity

/-- And to nothing else. -/
theorem eq_of_multiple
    (h : RoundsTo x y) {m : ℤ} (hx : x = m * 10 ^ lastPlace x) :
  y = x
  := by
  have hunit : (0 : ℚ) < 10 ^ lastPlace x := by positivity
  obtain ⟨n, hn, -⟩ := h.multiple
  have hsub : y - x = (n - m : ℤ) * 10 ^ lastPlace x := by
    rw [Int.cast_sub, sub_mul, ← hn, ← hx]
  have hnear := h.near
  rw [hsub, abs_mul, abs_of_pos hunit, ← mul_assoc, ← Int.cast_abs] at hnear
  have hle : (2 * |n - m| : ℤ) ≤ 1 := by
    have := le_of_mul_le_mul_right (hnear.trans_eq (one_mul _).symm) hunit
    exact_mod_cast this
  have heq : n = m := by
    have hpos := abs_nonneg (n - m)
    exact sub_eq_zero.mp (abs_eq_zero.mp (by omega))
  rw [hn, heq, ← hx]

theorem zero :
  RoundsTo 0 0
  := by
  apply refl (m := 0)
  rw [Int.cast_zero, zero_mul]

/-- A number of at most 28 digits is rounded to itself. -/
theorem eq_of_digits
    (h : RoundsTo x y) {n k : ℤ} (hx : x = n * 10 ^ k) (hn : |n| < tenTo precision)
    (hk : minLast ≤ k) :
  y = x
  := by
  by_cases h0 : x = 0
  · apply h.eq_of_multiple (m := 0)
    rw [Int.cast_zero, zero_mul, h0]
  · have hlt : |x| < 10 ^ (k + precision) := by
      rw [hx]
      exact abs_lt_of_digits hn k
    obtain ⟨m, hm⟩ := exists_eq_mul hx (lastPlace_le h0 hk hlt)
    exact h.eq_of_multiple hm

/-- Only a positive number is rounded to a positive one. -/
theorem pos
    (h : RoundsTo x y) (hy : 0 < y) :
  0 < x
  := by
  by_contra hx
  rw [not_lt] at hx
  have hunit : (0 : ℚ) < 10 ^ lastPlace x := by positivity
  obtain ⟨n, hn, -⟩ := h.multiple
  have hn1 : 1 ≤ n := by
    rw [hn] at hy
    exact_mod_cast pos_of_mul_pos_left hy hunit.le
  have hge : 10 ^ lastPlace x ≤ y := by
    rw [hn]
    exact le_mul_of_one_le_left hunit.le (by exact_mod_cast hn1)
  have hnear := h.near
  rw [abs_of_pos (by linarith)] at hnear
  linarith

/-- Where no digits are lost at the least exponent, rounding changes a number by a part of
`unitRoundoff` of it at most. -/
theorem abs_sub_le
    (h : RoundsTo x y) (hx : ¬ Underflows x y) :
  |y - x| ≤ unitRoundoff * |x|
  := by
  by_cases hsmall : |x| < 10 ^ (minLast + precision - 1)
  · have heq : y = x := by
      by_contra hne
      exact hx ⟨hsmall, hne⟩
    rw [heq, sub_self, abs_zero]
    exact mul_nonneg (by norm_num [unitRoundoff]) (abs_nonneg x)
  · rw [not_lt] at hsmall
    obtain ⟨hplace, hle⟩ := lastPlace_of_large hsmall
    have hnear := h.near
    rw [hplace, zpow_add₀ (by norm_num)] at hnear
    have hunit : (10 : ℚ) ^ (1 - precision : ℤ) = 2 * unitRoundoff := by
      norm_num [precision, unitRoundoff]
    rw [hunit] at hnear
    have hscaled : 10 ^ Int.log 10 |x| * (2 * unitRoundoff) ≤ |x| * (2 * unitRoundoff) :=
      mul_le_mul_of_nonneg_right hle (by norm_num [unitRoundoff])
    linarith

end RoundsTo

/-! ### Dropping digits -/

/-- Dropping digits rounds to the nearest, half to even. -/
theorem dropDigits_near
    (n k : Nat) :
  let r := dropDigits .toEven n k
  (2 * (r * tenTo k) ≤ 2 * n + tenTo k ∧ 2 * n ≤ 2 * (r * tenTo k) + tenTo k)
    ∧ (2 * (r * tenTo k) = 2 * n + tenTo k ∨ 2 * n = 2 * (r * tenTo k) + tenTo k → r % 2 = 0)
  := by
  intro r
  by_cases hk : digitCount n < k
  · have hr : r = 0 := if_pos hk
    have hn := lt_tenTo_digitCount n
    have hmul : tenTo (digitCount n) * 10 ≤ tenTo k := by
      rw [← tenTo_succ]
      exact Nat.pow_le_pow_right (by norm_num) hk
    rw [hr]
    omega
  · have hdiv := Nat.div_add_mod n (tenTo k)
    have hmod := Nat.mod_lt n (tenTo_pos k)
    rw [mul_comm] at hdiv
    have hsucc : (n / tenTo k + 1) * tenTo k = n / tenTo k * tenTo k + tenTo k := by ring
    obtain hlt | heq | hgt := lt_trichotomy (2 * (n % tenTo k)) (tenTo k)
    · have hr : r = n / tenTo k := by simp [r, dropDigits, hk, hlt]
      rw [hr]
      omega
    · have hr : r = n / tenTo k + n / tenTo k % 2 := by
        simp [r, dropDigits, hk, heq]
      obtain heven | hodd := Nat.mod_two_eq_zero_or_one (n / tenTo k)
      · rw [hr, heven, add_zero]
        omega
      · rw [hr, hodd, hsucc]
        omega
    · have hr : r = n / tenTo k + 1 := by
        simp [r, dropDigits, hk, hgt, hgt.not_gt]
      rw [hr, hsucc]
      omega

/-- A number of `j` digits more than are dropped is rounded to `j` digits or to the next
power of ten. -/
theorem dropDigits_le
    {n k j : Nat} (hn : digitCount n ≤ k + j) :
  dropDigits .toEven n k ≤ tenTo j
  := by
  obtain ⟨⟨hlow, -⟩, -⟩ := dropDigits_near n k
  have hlt : n < tenTo j * tenTo k := by
    rw [← tenTo_add, add_comm]
    exact lt_of_lt_of_le (lt_tenTo_digitCount n) (Nat.pow_le_pow_right (by norm_num) hn)
  by_contra hgt
  have hmul : (tenTo j + 1) * tenTo k ≤ dropDigits .toEven n k * tenTo k :=
    Nat.mul_le_mul_right _ (by omega)
  rw [add_mul, one_mul] at hmul
  have hpos := tenTo_pos k
  omega

/-! ### Fitting a result -/

/-- A number whose digits behind the last place are dropped is rounded correctly. -/
theorem roundsTo_dropDigits
    {c : Nat} {e : ℤ} (he : e ≤ lastPlace (c * 10 ^ e)) :
  RoundsTo (c * 10 ^ e)
    (dropDigits .toEven c (lastPlace (c * 10 ^ e) - e).toNat * 10 ^ lastPlace (c * 10 ^ e))
  := by
  generalize hlast : lastPlace ((c : ℚ) * 10 ^ e) = last at *
  obtain ⟨⟨hlow, hhigh⟩, htie⟩ := dropDigits_near c (last - e).toNat
  generalize dropDigits .toEven c (last - e).toNat = r at *
  have hunit : (10 : ℚ) ^ last = tenTo (last - e).toNat * 10 ^ e := by
    rw [cast_tenTo, Int.toNat_of_nonneg (by omega), ← zpow_add₀ (by norm_num), sub_add_cancel]
  generalize tenTo (last - e).toNat = unit at *
  have hpos : (0 : ℚ) < 10 ^ e := by positivity
  have hdiff : |(r : ℚ) * 10 ^ last - c * 10 ^ e| = (|(r * unit - c : ℤ)| : ℤ) * 10 ^ e := by
    rw [hunit, ← mul_assoc, ← sub_mul, abs_mul, abs_of_pos hpos, Int.cast_abs]
    push_cast
    ring
  have hcast : 2 * ((|(r * unit - c : ℤ)| : ℤ) : ℚ) * 10 ^ e
      = ((2 * |(r * unit - c : ℤ)| : ℤ) : ℚ) * 10 ^ e := by
    push_cast
    ring
  constructor
  · rw [hlast, hdiff, ← mul_assoc, hcast, hunit]
    apply mul_le_mul_of_nonneg_right _ hpos.le
    have hle : 2 * |(r * unit - c : ℤ)| ≤ unit := by
      rw [← abs_two, ← abs_mul, abs_le]
      constructor <;> omega
    exact_mod_cast hle
  · use r
    rw [hlast, Int.cast_natCast]
    use rfl
    rw [hdiff, ← mul_assoc, hcast, hunit]
    intro heq
    have heq' : 2 * |(r * unit - c : ℤ)| = unit := by
      exact_mod_cast mul_right_cancel₀ hpos.ne' heq
    have heven : r % 2 = 0 := by
      apply htie
      obtain ⟨habs, -⟩ | ⟨habs, -⟩ := abs_cases (r * unit - c : ℤ) <;> omega
    exact_mod_cast Nat.even_iff.mpr heven

theorem roundsTo_value
    {c c' : Nat} {e e' : ℤ} (h : RoundsTo (c * 10 ^ e) (c' * 10 ^ e')) (s : Bool) :
  RoundsTo (finite s c e).value (finite s c' e').value
  := by
  cases s
  · simpa using h
  · simpa using h.neg

/-- A result that fits is the exact number, rounded correctly. -/
theorem fit_eq_ok
    {s : Bool} {c : Nat} {e : ℤ} {y : Decimal} (h : fit s c e = .ok y) :
  y.IsResult ∧ RoundsTo (finite s c e).value y.value
  := by
  unfold fit at h
  by_cases hc : c = 0
  · rw [if_pos hc] at h
    cases h
    use ⟨tenTo_pos _, le_max_left _ _⟩
    subst hc
    rw [value_finite_zero, value_finite_zero]
    exact RoundsTo.zero
  rw [if_neg hc] at h
  have hplace := lastPlace_eq (Nat.pos_of_ne_zero hc) e
  have hmin : minLast ≤ lastPlace (c * 10 ^ e) := le_max_right _ _
  simp only [← hplace] at h
  split_ifs at h with _ he hd hover
  · cases h
    use ⟨(digitCount_le_iff (by decide)).mp hd, hmin⟩
    exact roundsTo_value (roundsTo_dropDigits he.le) s
  · cases h
    -- the digits that are kept were all nines, and rounding carried to the next power of ten
    have hle : dropDigits .toEven c (lastPlace (c * 10 ^ e) - e).toNat ≤ tenTo precision := by
      apply dropDigits_le
      omega
    have hge : tenTo precision ≤ dropDigits .toEven c (lastPlace (c * 10 ^ e) - e).toNat := by
      rw [digitCount_le_iff (by decide)] at hd
      omega
    have heq := le_antisymm hle hge
    use ⟨by rw [heq]; decide, by omega⟩
    apply roundsTo_value _ s
    have hcarry : ((tenTo precision / 10 : Nat) : ℚ) * 10 ^ (lastPlace (c * 10 ^ e) + 1)
        = tenTo precision * 10 ^ lastPlace (c * 10 ^ e) := by
      rw [zpow_add₀ (by norm_num)]
      norm_num [tenTo, precision]
      ring
    rw [heq, hcarry, ← heq]
    exact roundsTo_dropDigits he.le
  · cases h
    rw [not_lt] at he
    use ⟨(digitCount_le_iff (by decide)).mp (by omega), by omega⟩
    apply roundsTo_value _ s
    obtain ⟨m, hm⟩ := exists_eq_mul (n := c) rfl he
    exact RoundsTo.refl hm

end TradeGate.Decimal
