import TradeGate.Proofs.Decimal.Digits

/-!
# The range of results

An operation on finite decimals stops exactly where its exact result is rounded to a number that
is too large, and otherwise gives the number that the exact result is rounded to.  There is one
such number.  So what an operation gives, as a number, depends on the exact result alone, and not
on the digits of its operands.
-/

namespace TradeGate.Decimal

/-! ### Rounding has one result -/

/-- A number is rounded to one number: of two neighbouring multiples of the last place that are
equally near, one is odd. -/
theorem RoundsTo.unique
    {x y z : ℚ} (hy : RoundsTo x y) (hz : RoundsTo x z) :
  y = z
  := by
  have hunit : (0 : ℚ) < 10 ^ lastPlace x := by positivity
  obtain ⟨m, hm, hmeven⟩ := hy.multiple
  obtain ⟨n, hn, hneven⟩ := hz.multiple
  have hynear := hy.near
  have hznear := hz.near
  have hdistance : |(m - n : ℤ)| * (10 : ℚ) ^ lastPlace x = |y - z| := by
    rw [hm, hn, ← sub_mul, abs_mul, abs_of_pos hunit]
    push_cast
    rfl
  have htriangle : |y - z| ≤ |y - x| + |z - x| := by
    have hsum := abs_add_le (y - x) (x - z)
    rwa [sub_add_sub_cancel, abs_sub_comm x z] at hsum
  have hle : |m - n| ≤ 1 := by
    have hmul : |(m - n : ℤ)| * (10 : ℚ) ^ lastPlace x ≤ 1 * 10 ^ lastPlace x := by linarith
    exact_mod_cast le_of_mul_le_mul_right hmul hunit
  obtain heq | hone := (abs_nonneg (m - n)).lt_or_eq.symm.imp Eq.symm fun h => le_antisymm hle h
  · rw [hm, hn, sub_eq_zero.mp (abs_eq_zero.mp heq)]
  · -- both are half a unit away, so both multiples are even
    rw [hone, Int.cast_one, one_mul] at hdistance
    have hm2 := hmeven (by linarith)
    have hn2 := hneven (by linarith)
    have hodd : Even (m - n) := hm2.sub hn2
    obtain habs | habs := abs_eq (by norm_num) |>.mp hone
    · rw [habs] at hodd
      exact absurd hodd (by decide)
    · rw [habs] at hodd
      exact absurd hodd (by decide)

/-! ### Results in range -/

/-- The least power of ten that is too large for a result. -/
def limit : ℚ := 10 ^ (maxLast + precision)

/-- An operation with the exact result `x` gives the number that `x` is rounded to, or it
overflows because that number is too large. -/
inductive Rounds (x : ℚ) : Except Trap Decimal → Prop where
  | inRange {z : Decimal} (hz : z.IsResult) (hround : RoundsTo x z.value)
    (hlt : |z.value| < limit) : Rounds x (.ok z)
  | tooLarge {y : ℚ} (hround : RoundsTo x y) (hle : limit ≤ |y|) : Rounds x (.error .overflow)

namespace Rounds

variable {x : ℚ} {a b : Except Trap Decimal} {z : Decimal}

/-- Operations with one exact result give one number, or they overflow both. -/
theorem exists_ok
    (ha : Rounds x a) (hb : Rounds x b) (hz : a = .ok z) :
  ∃ z', b = .ok z' ∧ z'.value = z.value
  := by
  cases ha with
  | tooLarge hround hle => cases hz
  | inRange _ hround hlt =>
    cases hz
    cases hb with
    | inRange _ hround' _ => exact ⟨_, rfl, hround'.unique hround⟩
    | tooLarge hround' hle =>
      rw [hround'.unique hround] at hle
      exact absurd hlt hle.not_gt

/-- What an operation gives is its exact result, rounded correctly. -/
theorem of_eq_ok
    (h : Rounds x a) (hz : a = .ok z) :
  z.IsResult ∧ RoundsTo x z.value
  := by
  subst hz
  cases h with
  | inRange hresult hround => exact ⟨hresult, hround⟩

/-- An operation stops only if its result is too large. -/
theorem exists_of_ne_overflow
    (h : Rounds x a) (hne : a ≠ .error .overflow) :
  ∃ z, a = .ok z
  := by
  cases h with
  | inRange => exact ⟨_, rfl⟩
  | tooLarge => exact absurd rfl hne

/-- Numbers that are rounded alike are rounded alike by operations. -/
theorem congr
    {x' : ℚ} (h : Rounds x a) (hround : ∀ y, RoundsTo x y → RoundsTo x' y) :
  Rounds x' a
  := by
  cases h with
  | inRange hz hy hlt => exact .inRange hz (hround _ hy) hlt
  | tooLarge hy hle => exact .tooLarge (hround _ hy) hle

end Rounds

/-! ### Representable numbers -/

/-- A number that results can take: of at most 28 digits, of which the last one is in range. -/
def Representable (x : ℚ) : Prop :=
  ∃ n k : ℤ, |n| < tenTo precision ∧ minLast ≤ k ∧ k ≤ maxLast ∧ x = n * 10 ^ k

theorem representable_intCast
    {n : ℤ} (hn : |n| < tenTo precision) :
  Representable n
  := ⟨n, 0, hn, by decide, by decide, by rw [zpow_zero, mul_one]⟩

theorem representable_zpow
    {k : ℤ} (hmin : minLast ≤ k) (hmax : k ≤ maxLast) :
  Representable (10 ^ k)
  := ⟨1, k, by decide, hmin, hmax, by rw [Int.cast_one, one_mul]⟩

namespace Representable

variable {x y m : ℚ}

theorem neg
    (h : Representable x) :
  Representable (-x)
  := by
  obtain ⟨n, k, hn, hmin, hmax, rfl⟩ := h
  exact ⟨-n, k, (abs_neg n).trans_lt hn, hmin, hmax, by rw [Int.cast_neg, neg_mul]⟩

/-- A representable number is a multiple of its last place. -/
theorem exists_multiple
    (h : Representable x) :
  ∃ j : ℤ, x = j * 10 ^ lastPlace x
  := by
  obtain ⟨n, k, hn, hk, -, hx⟩ := h
  obtain rfl | hne := eq_or_ne x 0
  · exact ⟨0, by rw [Int.cast_zero, zero_mul]⟩
  · apply exists_eq_mul hx
    apply lastPlace_le hne hk
    rw [hx]
    exact abs_lt_of_digits hn k

/-- It is rounded to itself. -/
theorem eq_of_roundsTo
    (h : Representable x) (hround : RoundsTo x y) :
  y = x
  := by
  obtain ⟨j, hj⟩ := h.exists_multiple
  exact hround.eq_of_multiple hj

/-- It is in range. -/
theorem abs_lt_limit
    (h : Representable x) :
  |x| < limit
  := by
  obtain ⟨n, k, hn, -, hk, rfl⟩ := h
  apply (abs_lt_of_digits hn k).trans_le
  exact zpow_le_zpow_right₀ (by norm_num) (by omega)

/-- Rounding does not move a number below a representable one. -/
theorem le_of_roundsTo
    (hm : Representable m) (h : RoundsTo x y) (hle : m ≤ x) :
  m ≤ y
  := by
  obtain ⟨n, k, hn, hk, -, heq⟩ := hm
  have hdigits : HasDigits m := ⟨n, k, hn, heq⟩
  obtain rfl | hne := eq_or_ne x 0
  · rwa [h.eq_of_multiple (m := 0) (by rw [Int.cast_zero, zero_mul])]
  obtain hsmall | hlarge := lt_or_ge |x| (10 ^ (minLast + precision))
  · -- the last place of a small number is the least one
    obtain ⟨j, hj⟩ := exists_eq_mul heq ((lastPlace_le hne le_rfl hsmall).trans hk)
    rw [hj] at hle ⊢
    exact h.le_of_multiple hle
  · apply h.le_of_hasDigits _ hdigits hle
    exact not_underflows (k := minLast + precision) (by omega) hlarge

end Representable

/-- An operation with a representable result gives it. -/
theorem Rounds.exists_of_representable
    {x : ℚ} {a : Except Trap Decimal} (h : Rounds x a) (hx : Representable x) :
  ∃ z, a = .ok z ∧ z.isFinite = true ∧ z.value = x
  := by
  cases h with
  | inRange hz hround => exact ⟨_, rfl, hz.isFinite, hx.eq_of_roundsTo hround⟩
  | tooLarge hround hle =>
    rw [hx.eq_of_roundsTo hround] at hle
    exact absurd hx.abs_lt_limit hle.not_gt

/-! ### Fitting a result -/

/-- Every number of finitely many digits is rounded to some number. -/
theorem exists_roundsTo
    (c : Nat) (e : ℤ) :
  ∃ y, RoundsTo (c * 10 ^ e) y
  := by
  obtain hle | hgt := le_or_gt e (lastPlace (c * 10 ^ e))
  · exact ⟨_, roundsTo_dropDigits hle⟩
  · obtain ⟨m, hm⟩ := exists_eq_mul (x := (c : ℚ) * 10 ^ e) (n := c) rfl hgt.le
    exact ⟨_, RoundsTo.refl hm⟩

/-- A number is not rounded to one below the power of ten of its leading digit. -/
theorem RoundsTo.le_of_leading
    {c : Nat} {e : ℤ} {y : ℚ} (h : RoundsTo (c * 10 ^ e) y) (hc : 0 < c)
    (hplace : lastPlace (c * 10 ^ e) ≤ leading c e) :
  10 ^ leading c e ≤ y
  := by
  obtain ⟨j, hj⟩ : ∃ j : ℤ, (10 : ℚ) ^ leading c e = j * 10 ^ lastPlace (c * 10 ^ e) :=
    exists_eq_mul (n := 1) (by rw [Int.cast_one, one_mul]) hplace
  rw [hj]
  apply h.le_of_multiple
  rw [← hj]
  exact Decimal.le_of_leading hc e

theorem limit_eq :
  limit = tenTo precision * 10 ^ maxLast
  := by
  unfold limit
  rw [cast_tenTo, add_comm, zpow_add₀ (by norm_num)]

/-- A result of 28 digits whose last one is in range is in range. -/
theorem mul_zpow_lt_limit
    {c : Nat} (hc : c < tenTo precision) {e : ℤ} (he : e ≤ maxLast) :
  (c : ℚ) * 10 ^ e < limit
  := by
  have hpow : (10 : ℚ) ^ e ≤ 10 ^ maxLast := zpow_le_zpow_right₀ (by norm_num) he
  have hc' : (c : ℚ) < tenTo precision := by exact_mod_cast hc
  rw [limit_eq]
  calc (c : ℚ) * 10 ^ e < tenTo precision * 10 ^ e := by
        apply mul_lt_mul_of_pos_right hc'
        positivity
    _ ≤ tenTo precision * 10 ^ maxLast := mul_le_mul_of_nonneg_left hpow (Nat.cast_nonneg _)

/-- A result that fits is in range. -/
theorem lt_limit_of_fit
    {s : Bool} {c : Nat} {e : ℤ} {z : Decimal} (h : fit s c e = .ok z) :
  |z.value| < limit
  := by
  unfold fit at h
  by_cases hc : c = 0
  · rw [if_pos hc] at h
    cases h
    have hpos : (0 : ℚ) < limit := by
      unfold limit
      positivity
    simpa using hpos
  rw [if_neg hc] at h
  have hmin : minLast ≤ maxLast := by decide
  simp only at h
  split_ifs at h with hfull he hd hover
  · cases h
    rw [abs_value]
    exact mul_zpow_lt_limit ((digitCount_le_iff (by decide)).mp hd) (by omega)
  · cases h
    rw [abs_value]
    apply mul_zpow_lt_limit _ (by omega)
    -- the digits were all nines
    have hle := dropDigits_le (n := c)
      (k := (max (e + digitCount c - precision) minLast - e).toNat) (j := precision) (by omega)
    have hten : tenTo precision / 10 < tenTo precision := by decide
    omega
  · cases h
    rw [abs_value]
    apply (lt_of_leading c e).trans_le
    apply zpow_le_zpow_right₀ (by norm_num)
    rw [leading]
    omega

/-- A result that does not fit is too large. -/
theorem exists_limit_le_of_fit
    {s : Bool} {c : Nat} {e : ℤ} {t : Trap} (h : fit s c e = .error t) :
  ∃ y, RoundsTo (c * 10 ^ e) y ∧ limit ≤ y
  := by
  unfold fit at h
  by_cases hc : c = 0
  · rw [if_pos hc] at h
    cases h
  rw [if_neg hc] at h
  have hpos := Nat.pos_of_ne_zero hc
  have hplace := lastPlace_eq hpos e
  have hmin : minLast ≤ maxLast := by decide
  simp only [← hplace] at h
  split_ifs at h with hfull he hd hover
  · obtain ⟨y, hy⟩ := exists_roundsTo c e
    use y, hy
    have hleading : lastPlace (c * 10 ^ e) ≤ leading c e := by
      rw [hplace, leading]
      simp only [precision] at *
      omega
    apply le_trans _ (hy.le_of_leading hpos hleading)
    apply zpow_le_zpow_right₀ (by norm_num)
    rw [leading]
    omega
  · refine ⟨_, roundsTo_dropDigits he.le, ?_⟩
    have hlast : lastPlace (c * 10 ^ e) = maxLast := by omega
    rw [digitCount_le_iff (by decide), not_lt] at hd
    rw [limit_eq, hlast]
    apply mul_le_mul_of_nonneg_right
    · rw [hlast] at hd
      exact_mod_cast hd
    · positivity

theorem fit_eq_error
    {s : Bool} {c : Nat} {e : ℤ} {t : Trap} (h : fit s c e = .error t) :
  t = .overflow
  := by
  unfold fit at h
  split at h
  · cases h
  · simp only at h
    split_ifs at h <;> cases h <;> rfl

/-- What fits is rounded correctly, and what does not is too large. -/
theorem rounds_fit
    (s : Bool) (c : Nat) (e : ℤ) :
  Rounds (finite s c e).value (fit s c e)
  := by
  cases h : fit s c e with
  | ok z =>
    obtain ⟨hz, hround⟩ := fit_eq_ok h
    exact .inRange hz hround (lt_limit_of_fit h)
  | error t =>
    obtain rfl := fit_eq_error h
    obtain ⟨y, hy, hle⟩ := exists_limit_le_of_fit h
    cases s with
    | false =>
      rw [value_positive]
      exact .tooLarge hy (hle.trans (le_abs_self y))
    | true =>
      rw [value_negative]
      apply Rounds.tooLarge hy.neg
      rw [abs_neg]
      exact hle.trans (le_abs_self y)

end TradeGate.Decimal
