import TradeGate.Proofs.Decimal.Range
import Mathlib.Data.Nat.Cast.Field
import Mathlib.Tactic.LinearCombination

/-!
# Correctly rounded arithmetic

Sum, difference, product and quotient of finite decimals are the exact results, rounded
correctly, and they overflow where these are too large.  The sum of numbers far apart and the quotient are not
computed exactly but close enough: the number that is rounded lies in the same unit as the
exact one, and is not a multiple of five units, so no half lies between them.
-/

namespace TradeGate.Decimal

/-! ### Numbers in the same unit -/

/-- The next number has no more digits unless it is a multiple of five. -/
theorem digitCount_succ
    {n : Nat} (h5 : (n + 1) % 5 ≠ 0) :
  digitCount (n + 1) = digitCount n
  := by
  apply le_antisymm
  · have hpos := digitCount_pos n
    rw [digitCount_le_iff hpos]
    have hlt := lt_tenTo_digitCount n
    have hne : n + 1 ≠ tenTo (digitCount n) := by
      intro heq
      rw [heq, ← Nat.sub_add_cancel hpos, tenTo_succ] at h5
      omega
    omega
  · rw [digitCount_eq, digitCount_eq]
    have hmono : Nat.log 10 n ≤ Nat.log 10 (n + 1) := Nat.log_mono_right (Nat.le_succ n)
    omega

/-- Between two neighbouring multiples of a unit the last place is the same. -/
theorem lastPlace_of_neighbour
    {N : Nat} {e : ℤ} {x : ℚ} (hN : 0 < N) (hlow : N * 10 ^ e < x)
    (hhigh : x < (N + 1) * 10 ^ e) :
  lastPlace x = max (e + digitCount N - precision) minLast
  := by
  have hx : 0 < x := lt_trans (by positivity) hlow
  have hlt : (N + 1 : ℚ) * 10 ^ e ≤ 10 ^ (leading N e + 1) := by
    have hsucc : ((N + 1 : Nat) : ℚ) ≤ tenTo (digitCount N) := by
      exact_mod_cast lt_tenTo_digitCount N
    rw [cast_tenTo, Nat.cast_succ] at hsucc
    calc (N + 1 : ℚ) * 10 ^ e ≤ 10 ^ (digitCount N : ℤ) * 10 ^ e := by
          apply mul_le_mul_of_nonneg_right hsucc
          positivity
      _ = 10 ^ (leading N e + 1) := by
          rw [← zpow_add₀ (by norm_num), leading]
          congr 1
          ring
  have hlog := log_eq_of_zpow_le_of_lt ((le_of_leading hN e).trans hlow.le) (hhigh.trans_le hlt)
  rw [lastPlace, abs_of_pos hx, hlog, leading]
  congr 1
  ring

/-- It is that of either of them, unless this is a multiple of five units. -/
theorem lastPlace_eq_of_neighbour
    {N M : Nat} {e : ℤ} {x : ℚ} (hN : 0 < N) (hM : M = N ∨ M = N + 1) (h5 : M % 5 ≠ 0)
    (hlow : N * 10 ^ e < x) (hhigh : x < (N + 1) * 10 ^ e) :
  lastPlace (M * 10 ^ e) = lastPlace x
  := by
  have hdigits : digitCount M = digitCount N := by
    obtain rfl | rfl := hM
    · rfl
    · exact digitCount_succ h5
  rw [lastPlace_eq (by omega) e, hdigits, lastPlace_of_neighbour hN hlow hhigh]

/-- Where multiples of five enclose a number that is none, they enclose its neighbours too. -/
theorem le_of_near_multiple
    {N M : Nat} {T half : ℤ} (hM : M = N ∨ M = N + 1) (h5 : M % 5 ≠ 0)
    (hnear : 2 * |5 * T - M| ≤ 10 * half) :
  5 * T - 5 * half ≤ N ∧ N + 1 ≤ 5 * T + 5 * half
  := by
  obtain ⟨habs, hsign⟩ | ⟨habs, hsign⟩ := abs_cases (5 * T - (M : ℤ)) <;> omega

/-- A number between two neighbouring multiples of a small unit is rounded like either of
them that is no multiple of five units. -/
theorem RoundsTo.of_neighbour
    {N M : Nat} {e : ℤ} {x y : ℚ} (h : RoundsTo (M * 10 ^ e) y) (hN : tenTo precision ≤ N)
    (hM : M = N ∨ M = N + 1) (h5 : M % 5 ≠ 0) (hlow : N * 10 ^ e < x)
    (hhigh : x < (N + 1) * 10 ^ e) :
  RoundsTo x y
  := by
  have hpos : 0 < N := lt_of_lt_of_le (tenTo_pos _) hN
  have hdigits : precision < digitCount N := by
    rw [← not_le, digitCount_le_iff (by decide)]
    omega
  have hplace := lastPlace_of_neighbour hpos hlow hhigh
  have hplace' := lastPlace_eq_of_neighbour hpos hM h5 hlow hhigh
  -- all multiples of half the last place are multiples of five units
  have hunit : (10 : ℚ) ^ lastPlace x = 10 * tenTo (lastPlace x - 1 - e).toNat * 10 ^ e := by
    rw [cast_tenTo, Int.toNat_of_nonneg (by omega), mul_assoc, ← zpow_add₀ (by norm_num),
      ← zpow_one_add₀ (by norm_num)]
    congr 1
    ring
  generalize tenTo (lastPlace x - 1 - e).toNat = half at hunit
  have he : (0 : ℚ) < 10 ^ e := by positivity
  obtain ⟨n, hn, -⟩ := h.multiple
  rw [hplace'] at hn
  have hy : y = (5 * (2 * n * half) : ℤ) * 10 ^ e := by
    rw [hn, hunit]
    push_cast
    ring
  have hnear := h.near
  rw [hplace', hunit, hy, ← sub_mul, abs_mul, abs_of_pos he, ← mul_assoc] at hnear
  have hnear' : 2 * |5 * (2 * n * half) - (M : ℤ)| ≤ 10 * half := by
    exact_mod_cast le_of_mul_le_mul_right hnear he
  obtain ⟨hlow', hhigh'⟩ := le_of_near_multiple hM h5 hnear'
  apply of_lt hn
  have hbelow : ((5 * (2 * n * half) - 5 * half : ℤ) : ℚ) * 10 ^ e ≤ N * 10 ^ e :=
    mul_le_mul_of_nonneg_right (by exact_mod_cast hlow') he.le
  have habove : (N + 1 : ℚ) * 10 ^ e ≤ ((5 * (2 * n * half) + 5 * half : ℤ) : ℚ) * 10 ^ e :=
    mul_le_mul_of_nonneg_right (by exact_mod_cast hhigh') he.le
  have hlt : |y - x| < 5 * half * 10 ^ e := by
    rw [hy, abs_lt]
    push_cast at hbelow habove ⊢
    constructor <;> linarith
  rw [hunit]
  linarith

/-! ### Sum and difference -/

/-- A whole number at an exponent is fitted. -/
theorem rounds_fit_signed
    (n e : ℤ) :
  Rounds (n * 10 ^ e) (fit (decide (n < 0)) n.natAbs e)
  := by
  have hfit := rounds_fit (decide (n < 0)) n.natAbs e
  rwa [value, signed_natAbs] at hfit

/-- A small number added to a large one may be taken for one unit in a place that is far
enough behind. -/
theorem RoundsTo.add_small
    {L : Nat} {edge : ℤ} {small y : ℚ} (h : RoundsTo ((L + 1 : ℤ) * 10 ^ edge) y)
    (hL : tenTo precision < L) (hten : L % 10 = 0) (hpos : 0 < small)
    (hlt : small < 10 ^ edge) :
  RoundsTo (L * 10 ^ edge + small) y
  := by
  have h' : RoundsTo ((L + 1 : Nat) * 10 ^ edge) y := by exact_mod_cast h
  apply h'.of_neighbour hL.le (.inr rfl) (by omega)
  · linarith
  · rw [add_mul, one_mul]
    linarith

/-- So it may where it is subtracted. -/
theorem RoundsTo.sub_small
    {L : Nat} {edge : ℤ} {small y : ℚ} (h : RoundsTo ((L - 1 : ℤ) * 10 ^ edge) y)
    (hL : tenTo precision < L) (hten : L % 10 = 0) (hpos : 0 < small)
    (hlt : small < 10 ^ edge) :
  RoundsTo (L * 10 ^ edge - small) y
  := by
  have hpred : ((L - 1 : Nat) : ℚ) = L - 1 := by
    rw [Nat.cast_sub (by omega), Nat.cast_one]
  have h' : RoundsTo ((L - 1 : Nat) * 10 ^ edge) y := by
    rw [hpred]
    exact_mod_cast h
  apply h'.of_neighbour (Nat.le_sub_one_of_lt hL) (.inl rfl) (by omega)
  · rw [hpred, sub_mul, one_mul]
    linarith
  · rw [hpred, sub_add_cancel]
    linarith

/-- So it may whatever the signs are. -/
theorem RoundsTo.of_small
    {s₁ s₂ : Bool} {L c₂ : Nat} {edge e₂ : ℤ} {y : ℚ}
    (h : RoundsTo ((signed s₁ L + signed s₂ 1 : ℤ) * 10 ^ edge) y) (hL : tenTo precision < L)
    (hten : L % 10 = 0) (hc : 0 < c₂) (hlt : (c₂ : ℚ) * 10 ^ e₂ < 10 ^ edge) :
  RoundsTo (signed s₁ L * 10 ^ edge + (finite s₂ c₂ e₂).value) y
  := by
  have hpos : (0 : ℚ) < c₂ * 10 ^ e₂ := by positivity
  cases s₁ <;> cases s₂
  · rw [value_positive]
    exact RoundsTo.add_small h hL hten hpos hlt
  · rw [value_negative, ← sub_eq_add_neg]
    exact RoundsTo.sub_small h hL hten hpos hlt
  · have hdiff : (signed true L : ℚ) * 10 ^ edge + (finite false c₂ e₂).value
        = -(L * 10 ^ edge - c₂ * 10 ^ e₂) := by
      simp [signed]
      ring
    have hunit : ((signed true L + signed false 1 : ℤ) : ℚ) * 10 ^ edge
        = -((L - 1 : ℤ) * 10 ^ edge) := by
      simp [signed]
      ring
    rw [hdiff, RoundsTo.neg_left_iff]
    exact (RoundsTo.neg_left_iff.mp (hunit ▸ h)).sub_small hL hten hpos hlt
  · have hsum : (signed true L : ℚ) * 10 ^ edge + (finite true c₂ e₂).value
        = -(L * 10 ^ edge + c₂ * 10 ^ e₂) := by
      simp [signed]
      ring
    have hunit : ((signed true L + signed true 1 : ℤ) : ℚ) * 10 ^ edge
        = -((L + 1 : ℤ) * 10 ^ edge) := by
      simp [signed]
      ring
    rw [hsum, RoundsTo.neg_left_iff]
    exact (RoundsTo.neg_left_iff.mp (hunit ▸ h)).add_small hL hten hpos hlt

/-- A small operand stays as it is, or it becomes one unit in a place that is behind the 29th
digit of the large one and before its own leading digit. -/
theorem approach_cases
    (large : Nat) (top : ℤ) (small : Nat) (bottom : ℤ) :
  approach large top small bottom = (small, bottom)
    ∨ ∃ edge, approach large top small bottom = (1, edge) ∧ leading small bottom < edge
      ∧ edge < top ∧ precision + 1 < digitCount large + (top - edge)
  := by
  unfold approach
  by_cases hfar : leading small bottom
      < top + min (-1) ((digitCount large : ℤ) - precision - 2)
  · right
    use top + min (-1) ((digitCount large : ℤ) - precision - 2), if_pos hfar, hfar
    omega
  · left
    exact if_neg hfar

/-- Digits that are moved behind a number make it large, and a multiple of ten. -/
theorem lt_mul_tenTo
    {c k : Nat} (hc : 0 < c) (hk : 0 < k) (hdigits : precision + 1 < digitCount c + k) :
  tenTo precision < c * tenTo k ∧ c * tenTo k % 10 = 0
  := by
  constructor
  · calc tenTo precision < tenTo (precision + 1) := Nat.pow_lt_pow_right (by norm_num) (by omega)
      _ ≤ tenTo (digitCount c - 1 + k) := Nat.pow_le_pow_right (by norm_num) (by omega)
      _ = tenTo (digitCount c - 1) * tenTo k := tenTo_add _ _
      _ ≤ c * tenTo k := Nat.mul_le_mul_right _ (tenTo_le_of_pos hc)
  · obtain ⟨j, rfl⟩ : ∃ j, k = j + 1 := ⟨k - 1, by omega⟩
    rw [tenTo_succ, ← mul_assoc, Nat.mul_mod_left]

theorem value_moved
    (s : Bool) (c : Nat) {e last : ℤ} (h : last ≤ e) :
  (signed s (c * tenTo (e - last).toNat) : ℚ) * 10 ^ last = (finite s c e).value
  := by
  have hmoved := cast_mul_tenTo c h
  cases s <;> simp [value, signed, ← hmoved]

theorem rounds_addAligned
    {s₁ s₂ : Bool} {c₁ c₂ : Nat} {e₁ e₂ : ℤ} (h₁ : 0 < c₁) (h₂ : 0 < c₂) (he : e₂ ≤ e₁) :
  Rounds ((finite s₁ c₁ e₁).value + (finite s₂ c₂ e₂).value) (addAligned s₁ c₁ e₁ s₂ c₂ e₂)
  := by
  have hexact := rounds_fit_signed (signed s₁ (c₁ * tenTo (e₁ - e₂).toNat) + signed s₂ c₂) e₂
  rw [Int.cast_add, add_mul, value_moved s₁ c₁ he] at hexact
  unfold addAligned
  by_cases hlt : e₂ < e₁
  · rw [if_pos hlt]
    obtain hsame | ⟨edge, hedge, hbelow, htop, hdigits⟩ := approach_cases c₁ e₁ c₂ e₂
    · rw [hsame]
      exact hexact
    · rw [hedge]
      obtain ⟨hlarge, hten⟩ := lt_mul_tenTo (k := (e₁ - edge).toNat) h₁ (by omega) (by omega)
      have hsmall : (c₂ : ℚ) * 10 ^ e₂ < 10 ^ edge :=
        (lt_of_leading c₂ e₂).trans_le (zpow_le_zpow_right₀ (by norm_num) (by omega))
      rw [← value_moved s₁ c₁ htop.le]
      apply (rounds_fit_signed _ edge).congr
      intro y hround
      exact hround.of_small hlarge hten h₂ hsmall
  · rw [if_neg hlt]
    exact hexact

theorem rounds_addZero
    (e₀ : ℤ) (s : Bool) (c : Nat) (e : ℤ) :
  Rounds (finite s c e).value (addZero e₀ s c e)
  := by
  rw [← value_moved s c (max_le (min_le_right e₀ e) (by omega : e - precision - 1 ≤ e))]
  exact rounds_fit _ _ _

/-- The sum of two finite decimals is the exact sum, rounded correctly, unless it is too large. -/
theorem rounds_add
    {x y : Decimal} (hx : x.isFinite = true) (hy : y.isFinite = true) :
  Rounds (x.value + y.value) (add x y)
  := by
  obtain ⟨s₁, c₁, e₁⟩ | _ | _ := x <;> obtain ⟨s₂, c₂, e₂⟩ | _ | _ := y <;>
    simp only [isFinite, Bool.false_eq_true] at hx hy
  simp only [add, propagateNaN, addFinite]
  split_ifs with h₀ h₁ h₂ hle
  · obtain ⟨rfl, rfl⟩ := h₀
    have hfit := rounds_fit (s₁ && s₂) 0 (min e₁ e₂)
    rw [value_finite_zero] at hfit
    rwa [value_finite_zero, value_finite_zero, add_zero]
  · subst h₁
    rw [value_finite_zero, zero_add]
    exact rounds_addZero _ _ _ _
  · subst h₂
    rw [value_finite_zero, add_zero]
    exact rounds_addZero _ _ _ _
  · exact rounds_addAligned (Nat.pos_of_ne_zero h₁) (Nat.pos_of_ne_zero h₂) hle
  · rw [add_comm]
    exact rounds_addAligned (Nat.pos_of_ne_zero h₂) (Nat.pos_of_ne_zero h₁) (by omega)

theorem sub_eq_add_negate
    {x y : Decimal} (hx : x.isFinite = true) (hy : y.isFinite = true) :
  sub x y = add x y.negate
  := by
  cases x <;> cases y <;> simp only [isFinite, Bool.false_eq_true] at hx hy
  rfl

/-- So is the difference. -/
theorem rounds_sub
    {x y : Decimal} (hx : x.isFinite = true) (hy : y.isFinite = true) :
  Rounds (x.value - y.value) (sub x y)
  := by
  rw [sub_eq_add_neg, ← value_negate, sub_eq_add_negate hx hy]
  exact rounds_add hx (y.isFinite_negate ▸ hy)

/-! ### Product and quotient -/

/-- The product of two finite decimals is the exact product, rounded correctly, unless it is too
large. -/
theorem rounds_mul
    {x y : Decimal} (hx : x.isFinite = true) (hy : y.isFinite = true) :
  Rounds (x.value * y.value) (mul x y)
  := by
  obtain ⟨s₁, c₁, e₁⟩ | _ | _ := x <;> obtain ⟨s₂, c₂, e₂⟩ | _ | _ := y <;>
    simp only [isFinite, Bool.false_eq_true] at hx hy
  have hprod : (finite (s₁ != s₂) (c₁ * c₂) (e₁ + e₂)).value
      = (finite s₁ c₁ e₁).value * (finite s₂ c₂ e₂).value := by
    cases s₁ <;> cases s₂ <;> simp [value, signed, zpow_add₀] <;> ring
  rw [← hprod]
  exact rounds_fit _ _ _

theorem mul_eq_ok
    {x y z : Decimal} (hx : x.isFinite = true) (hy : y.isFinite = true) (h : mul x y = .ok z) :
  z.IsResult ∧ RoundsTo (x.value * y.value) z.value
  := (rounds_mul hx hy).of_eq_ok h

/-- Removing zeros at the end leaves the number as it is. -/
theorem stripZeros_value
    (steps c : Nat) (e ideal : ℤ) :
  ((stripZeros steps c e ideal).1 : ℚ) * 10 ^ (stripZeros steps c e ideal).2 = c * 10 ^ e
  := by
  induction steps generalizing c e with
  | zero => rfl
  | succ steps ih =>
    unfold stripZeros
    by_cases hstrip : e < ideal ∧ c % 10 = 0
    · rw [if_pos hstrip, ih]
      have hc : ((c / 10 : Nat) : ℚ) * 10 = c := by
        exact_mod_cast Nat.div_mul_cancel (Nat.dvd_of_mod_eq_zero hstrip.2)
      rw [zpow_add₀ (by norm_num), zpow_one, ← hc]
      ring
    · rw [if_neg hstrip]

/-- A whole division with a rest lies between two neighbouring whole numbers. -/
theorem lt_div_lt
    {n d : Nat} (hd : 0 < d) (hrest : n % d ≠ 0) :
  ((n / d : Nat) : ℚ) < n / d ∧ (n / d : ℚ) < (n / d : Nat) + 1
  := by
  have hdiv := Nat.div_add_mod n d
  have hmod := Nat.mod_lt n hd
  have hd' : (0 : ℚ) < d := by exact_mod_cast hd
  constructor
  · rw [lt_div_iff₀ hd']
    have hlt : n / d * d < n := by
      rw [mul_comm]
      omega
    exact_mod_cast hlt
  · rw [div_lt_iff₀ hd']
    have hlt : n < (n / d + 1) * d := by
      rw [add_mul, one_mul, mul_comm]
      omega
    exact_mod_cast hlt

/-- A whole quotient of more than 28 digits is rounded like the exact one, once it has been
raised where it is a multiple of five and leaves a rest. -/
theorem RoundsTo.of_whole
    {n d : Nat} {e ideal : ℤ} {y : ℚ} (hd : 0 < d) (hn : tenTo precision * d ≤ n)
    (h : let p := if n % d = 0 then stripZeros (digitCount (n / d)) (n / d) e ideal
        else (if n / d % 5 = 0 then n / d + 1 else n / d, e)
      RoundsTo (p.1 * 10 ^ p.2) y) :
  RoundsTo (n / d * 10 ^ e) y
  := by
  have hpos : (0 : ℚ) < 10 ^ e := by positivity
  by_cases hrest : n % d = 0
  · simp only [hrest, if_true, stripZeros_value] at h
    rwa [Nat.cast_div (Nat.dvd_of_mod_eq_zero hrest) (by exact_mod_cast hd.ne')] at h
  · simp only [hrest, if_false] at h
    obtain ⟨hlow, hhigh⟩ := lt_div_lt hd hrest
    apply h.of_neighbour (N := n / d)
    · rw [Nat.le_div_iff_mul_le hd]
      exact hn
    · by_cases h5 : n / d % 5 = 0
      · right
        exact if_pos h5
      · left
        exact if_neg h5
    · split_ifs <;> omega
    · exact mul_lt_mul_of_pos_right hlow hpos
    · exact mul_lt_mul_of_pos_right hhigh hpos

/-- The digits of a quotient are rounded like the quotient itself. -/
theorem RoundsTo.of_quotientDigits
    {c₁ c₂ : Nat} {e₁ e₂ : ℤ} {y : ℚ} (h₁ : 0 < c₁) (h₂ : 0 < c₂)
    (h : RoundsTo ((quotientDigits c₁ e₁ c₂ e₂).1 * 10 ^ (quotientDigits c₁ e₁ c₂ e₂).2) y) :
  RoundsTo (c₁ * 10 ^ e₁ / (c₂ * 10 ^ e₂)) y
  := by
  unfold quotientDigits at h
  generalize hshift : (digitCount c₂ : ℤ) - digitCount c₁ + precision + 1 = shift at h
  have hd : 0 < c₂ * tenTo (-shift).toNat := Nat.mul_pos h₂ (tenTo_pos _)
  have hn : tenTo precision * (c₂ * tenTo (-shift).toNat) ≤ c₁ * tenTo shift.toNat := by
    have hpos := digitCount_pos c₁
    calc tenTo precision * (c₂ * tenTo (-shift).toNat)
        ≤ tenTo precision * (tenTo (digitCount c₂) * tenTo (-shift).toNat) := by
          apply Nat.mul_le_mul_left
          exact Nat.mul_le_mul_right _ (lt_tenTo_digitCount c₂).le
      _ = tenTo (digitCount c₁ - 1) * tenTo shift.toNat := by
          rw [← tenTo_add, ← tenTo_add, ← tenTo_add]
          congr 1
          omega
      _ ≤ c₁ * tenTo shift.toNat := Nat.mul_le_mul_right _ (tenTo_le_of_pos h₁)
  have hexact : (c₁ : ℚ) * 10 ^ e₁ / (c₂ * 10 ^ e₂)
      = (c₁ * tenTo shift.toNat : Nat) / (c₂ * tenTo (-shift).toNat : Nat)
        * 10 ^ (e₁ - e₂ - shift) := by
    have hpow : (10 : ℚ) ^ (shift.toNat : ℤ) * 10 ^ (e₁ - e₂ - shift) * 10 ^ e₂
        = 10 ^ ((-shift).toNat : ℤ) * 10 ^ e₁ := by
      rw [← zpow_add₀ (by norm_num), ← zpow_add₀ (by norm_num), ← zpow_add₀ (by norm_num)]
      congr 1
      omega
    rw [Nat.cast_mul, Nat.cast_mul, cast_tenTo, cast_tenTo, div_mul_eq_mul_div,
      div_eq_div_iff (by positivity) (by positivity)]
    linear_combination -(c₁ * c₂ : ℚ) * hpow
  rw [hexact]
  exact RoundsTo.of_whole hd hn h

/-- The quotient of two finite decimals, of which the second is not zero, is the exact quotient,
rounded correctly, unless it is too large. -/
theorem rounds_div
    {x y : Decimal} (hx : x.isFinite = true) (hy : y.isFinite = true) (hne : y.value ≠ 0) :
  Rounds (x.value / y.value) (div x y)
  := by
  obtain ⟨s₁, c₁, e₁⟩ | _ | _ := x <;> obtain ⟨s₂, c₂, e₂⟩ | _ | _ := y <;>
    simp only [isFinite, Bool.false_eq_true] at hx hy
  have h₂ : c₂ ≠ 0 := by
    rintro rfl
    exact hne (value_finite_zero _ _)
  simp only [div, propagateNaN, divFinite, if_neg h₂]
  split_ifs with h₁
  · subst h₁
    have hfit := rounds_fit (s₁ != s₂) 0 (e₁ - e₂)
    rw [value_finite_zero] at hfit
    rwa [value_finite_zero, zero_div]
  · apply (rounds_fit _ _ _).congr
    intro y hround
    have hquotient {y : ℚ} :=
      @RoundsTo.of_quotientDigits c₁ c₂ e₁ e₂ y (Nat.pos_of_ne_zero h₁) (Nat.pos_of_ne_zero h₂)
    cases s₁ <;> cases s₂
    · rw [value_positive, value_positive]
      exact hquotient (value_positive _ _ ▸ hround)
    · rw [value_positive, value_negative, div_neg, RoundsTo.neg_left_iff]
      exact hquotient (RoundsTo.neg_left_iff.mp (value_negative _ _ ▸ hround))
    · rw [value_negative, value_positive, neg_div, RoundsTo.neg_left_iff]
      exact hquotient (RoundsTo.neg_left_iff.mp (value_negative _ _ ▸ hround))
    · rw [value_negative, value_negative, neg_div_neg_eq]
      exact hquotient (value_positive _ _ ▸ hround)

/-- There is no quotient by zero. -/
theorem div_ne_ok_of_value_eq_zero
    {x y z : Decimal} (hx : x.isFinite = true) (hy : y.isFinite = true) (hzero : y.value = 0) :
  div x y ≠ .ok z
  := by
  obtain ⟨s₁, c₁, e₁⟩ | _ | _ := x <;> obtain ⟨s₂, c₂, e₂⟩ | _ | _ := y <;>
    simp only [isFinite, Bool.false_eq_true] at hx hy
  have h₂ : c₂ = 0 := by
    have habs := abs_value s₂ c₂ e₂
    rw [hzero, abs_zero] at habs
    have hpow : (10 : ℚ) ^ e₂ ≠ 0 := by positivity
    exact_mod_cast (mul_eq_zero.mp habs.symm).resolve_right hpow
  simp only [div, propagateNaN, divFinite, if_pos h₂]
  split_ifs <;> rintro ⟨⟩

theorem div_eq_ok
    {x y z : Decimal} (hx : x.isFinite = true) (hy : y.isFinite = true) (h : div x y = .ok z) :
  z.IsResult ∧ RoundsTo (x.value / y.value) z.value
  := by
  have hne : y.value ≠ 0 := fun hzero => div_ne_ok_of_value_eq_zero hx hy hzero h
  exact (rounds_div hx hy hne).of_eq_ok h

end TradeGate.Decimal
