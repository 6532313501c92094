import TradeGate.Proofs.Decimal.Arith
import TradeGate.Proofs.Reading
import TradeGate.Risk.Gate

/-!
# What passing a gate means

The price gates compute reward, risk, ratio and distance with 28 digits.  Where a gate lets a
signal pass, none of its operations has failed, and its verdict holds of the exact numbers:
signs are kept by rounding, and each rounded figure is off by a part of `unitRoundoff` at
most, provided that nothing underflows.
-/

namespace TradeGate

open Decimal

/-- A step of a computation that ends well has ended well itself. -/
theorem bind_eq_ok
    {ε α β : Type} {a : Except ε α} {f : α → Except ε β} {b : β} :
  (a >>= f) = .ok b ↔ ∃ x, a = .ok x ∧ f x = .ok b
  := by
  cases a with
  | error e =>
    change Except.error e = Except.ok b ↔ _
    simp
  | ok x =>
    change f x = .ok b ↔ _
    simp

/-! ### Exact figures -/

namespace Signal

/-- A signal whose prices are finite decimals. -/
structure IsFinite (s : Signal) : Prop where
  takeProfit : s.takeProfit.isFinite = true
  stopLoss : s.stopLoss.isFinite = true
  openPrice : ∀ o ∈ s.openPrice, o.isFinite = true

/-- A signal that was read has finite prices. -/
theorem isFinite_of_read
    {fields : Fields} {s : Signal} (h : read fields = .done s) :
  s.IsFinite
  := by
  have hprice : ∀ v d, Value.readDecimal v = .done d → d.isFinite = true :=
    fun _ _ => Value.isFinite_of_readDecimal
  unfold read at h
  simp only [Reading.seq_eq_done, Reading.map_eq_done] at h
  obtain ⟨_, _, ⟨_, _, ⟨_, _, ⟨_, _, ⟨_, _, ⟨_, _, ⟨_, -, rfl⟩, -, rfl⟩, htake, rfl⟩, hstop, rfl⟩,
    hopen, rfl⟩, -, rfl⟩, -, rfl⟩ := h
  constructor
  case takeProfit => exact Fields.of_required (P := fun d => d.isFinite = true) hprice htake
  case stopLoss => exact Fields.of_required (P := fun d => d.isFinite = true) hprice hstop
  case openPrice =>
    have hnone : ∀ d ∈ (none : Option Decimal), d.isFinite = true := by
      rintro d ⟨⟩
    exact Fields.of_optional (P := fun o => ∀ d ∈ o, d.isFinite = true)
      (fun _ _ => Value.of_readNullable hprice) hnone hopen

/-- The exact way from the open price to the take profit. -/
def reward (s : Signal) (o : ℚ) : ℚ :=
  match s.side with
  | .long => s.takeProfit.value - o
  | .short => o - s.takeProfit.value

/-- The exact way from the stop loss to the open price. -/
def risk (s : Signal) (o : ℚ) : ℚ :=
  match s.side with
  | .long => o - s.stopLoss.value
  | .short => s.stopLoss.value - o

/-- The open price lies between the stop loss and the take profit, on the sides that belong to
the trade. -/
def Brackets (s : Signal) (o : ℚ) : Prop :=
  match s.side with
  | .long => s.stopLoss.value < o ∧ o < s.takeProfit.value
  | .short => s.takeProfit.value < o ∧ o < s.stopLoss.value

theorem brackets_iff
    (s : Signal) (o : ℚ) :
  s.Brackets o ↔ 0 < s.risk o ∧ 0 < s.reward o
  := by
  unfold Brackets risk reward
  cases s.side
  · simp only [sub_pos]
  · simp only [sub_pos, and_comm]

variable {s : Signal} {o : Decimal}

/-- The reward that is computed is the exact one, rounded correctly, unless it is too large. -/
theorem rounds_rewardFrom
    (hs : s.IsFinite) (ho : o.isFinite = true) :
  Rounds (s.reward o.value) (s.rewardFrom o)
  := by
  unfold rewardFrom reward
  cases s.side
  · exact rounds_sub hs.takeProfit ho
  · exact rounds_sub ho hs.takeProfit

/-- So is the risk. -/
theorem rounds_riskFrom
    (hs : s.IsFinite) (ho : o.isFinite = true) :
  Rounds (s.risk o.value) (s.riskFrom o)
  := by
  unfold riskFrom risk
  cases s.side
  · exact rounds_sub ho hs.stopLoss
  · exact rounds_sub hs.stopLoss ho

theorem rewardFrom_eq_ok
    (hs : s.IsFinite) (ho : o.isFinite = true) {x : Decimal} (h : s.rewardFrom o = .ok x) :
  x.isFinite = true ∧ RoundsTo (s.reward o.value) x.value
  := ((rounds_rewardFrom hs ho).of_eq_ok h).imp_left IsResult.isFinite

theorem riskFrom_eq_ok
    (hs : s.IsFinite) (ho : o.isFinite = true) {y : Decimal} (h : s.riskFrom o = .ok y) :
  y.isFinite = true ∧ RoundsTo (s.risk o.value) y.value
  := ((rounds_riskFrom hs ho).of_eq_ok h).imp_left IsResult.isFinite

/-- No digits are lost at the least exponent when the ratio of reward to risk is computed. -/
structure RatioKeepsDigits (s : Signal) (o : Decimal) : Prop where
  reward : ∀ x, s.rewardFrom o = .ok x → ¬ Underflows (s.reward o.value) x.value
  risk : ∀ y, s.riskFrom o = .ok y → ¬ Underflows (s.risk o.value) y.value
  ratio : ∀ x y r, s.rewardFrom o = .ok x → s.riskFrom o = .ok y → x.div y = .ok r →
    ¬ Underflows (x.value / y.value) r.value

/-- No digits are lost at the least exponent when the distance of the stop loss is
computed. -/
structure DistanceKeepsDigits (s : Signal) (o : Decimal) : Prop where
  risk : ∀ y, s.riskFrom o = .ok y → ¬ Underflows (s.risk o.value) y.value
  share : ∀ y r, s.riskFrom o = .ok y → y.div o = .ok r →
    ¬ Underflows (y.value / o.value) r.value

end Signal

/-! ### Bounds -/

/-- A positive number is rounded to one between its parts. -/
theorem Decimal.RoundsTo.bounds
    {x y : ℚ} (h : RoundsTo x y) (hx : ¬ Underflows x y) (hpos : 0 < x) :
  x * (1 - unitRoundoff) ≤ y ∧ y ≤ x * (1 + unitRoundoff)
  := by
  have hle := h.abs_sub_le hx
  rw [abs_of_pos hpos, abs_le] at hle
  constructor <;> linarith

/-! ### Gates that let a signal pass -/

namespace Gate

variable {s : Signal} {o : Decimal} {f : Finding}

/-- What a verdict can be: the signal passes, or a text is the reason why not. -/
def IsVerdict (f : Finding) : Prop :=
  f.isPass = true ∨ f.isPass = false ∧ ∃ text, f.reason = .text text

/-- To give a reason why not is a verdict, and does not let the signal pass. -/
theorem refusal_isVerdict
    (text : String) {P : Prop} :
  IsVerdict (.fail (.text text)) ∧ ((Finding.fail (.text text)).isPass = true → P)
  := by
  constructor
  · right
    use rfl, text
    rfl
  · intro hpass
    cases hpass

/-- A verdict on the ratio of reward to risk.  Where the ratio is accepted, it was computed,
from a risk that is positive. -/
theorem judgeRatio_eq_ok
    {minimum : Decimal} (h : judgeRatio minimum s o = .ok f) :
  IsVerdict f ∧ (f.isPass = true → ∃ x y r, s.rewardFrom o = .ok x ∧ s.riskFrom o = .ok y
    ∧ y.atMost .zero = .ok false ∧ x.div y = .ok r ∧ r.less minimum = .ok false)
  := by
  obtain ⟨x, hx, h⟩ := bind_eq_ok.mp h
  obtain ⟨y, hy, h⟩ := bind_eq_ok.mp h
  obtain ⟨wrong, hwrong, h⟩ := bind_eq_ok.mp h
  cases wrong with
  | true =>
    cases h
    exact refusal_isVerdict _
  | false =>
    obtain ⟨r, hr, h⟩ := bind_eq_ok.mp h
    obtain ⟨poor, hpoor, h⟩ := bind_eq_ok.mp h
    cases poor with
    | true =>
      obtain ⟨text, -, h⟩ := bind_eq_ok.mp h
      cases h
      exact refusal_isVerdict _
    | false =>
      cases h
      exact ⟨.inl rfl, fun _ => ⟨x, y, r, hx, hy, hwrong, hr, hpoor⟩⟩

/-- A verdict on the distance of the stop loss.  Where the distance is accepted, it was
computed, from an open price that is positive. -/
theorem judgeDistance_eq_ok
    {minimum : Decimal} (h : judgeDistance minimum s o = .ok f) :
  IsVerdict f ∧ (f.isPass = true → ∃ y r t, o.atMost .zero = .ok false ∧ s.riskFrom o = .ok y
    ∧ y.div o = .ok r ∧ r.mul (.ofInt 100) = .ok t ∧ t.less minimum = .ok false)
  := by
  obtain ⟨wrong, hwrong, h⟩ := bind_eq_ok.mp h
  cases wrong with
  | true =>
    cases h
    exact refusal_isVerdict _
  | false =>
    obtain ⟨t, ht, h⟩ := bind_eq_ok.mp h
    obtain ⟨close, hclose, h⟩ := bind_eq_ok.mp h
    cases close with
    | true =>
      obtain ⟨text, -, h⟩ := bind_eq_ok.mp h
      cases h
      exact refusal_isVerdict _
    | false =>
      cases h
      obtain ⟨y, hy, ht⟩ := bind_eq_ok.mp ht
      obtain ⟨r, hr, ht⟩ := bind_eq_ok.mp ht
      exact ⟨.inl rfl, fun _ => ⟨y, r, t, hwrong, hy, hr, ht, hclose⟩⟩

/-- A verdict on the number of open positions.  Where the number is accepted, it was found to
be below the limit. -/
theorem judgeCount_eq_ok
    {limit : Value} {count : Int} (h : judgeCount limit count = .ok f) :
  IsVerdict f ∧ (f.isPass = true → reaches count limit = .ok false)
  := by
  obtain ⟨full, hfull, h⟩ := bind_eq_ok.mp h
  cases full with
  | true =>
    cases h
    exact refusal_isVerdict _
  | false =>
    cases h
    exact ⟨.inl rfl, fun _ => hfull⟩

/-- A count reaches a whole number if it is not below it. -/
theorem reaches_int
    (count limit : Int) :
  reaches count (.int limit) = .ok (decide (limit ≤ count))
  := by
  have hge : (compare (count : ℚ) limit != .lt) = decide (limit ≤ count) := by
    rw [Bool.eq_iff_iff, bne_iff_ne, compare_ge_iff_ge, decide_eq_true_iff, Int.cast_le]
  have horder := order_of_finite (isFinite_ofInt count) (isFinite_ofInt limit)
  rw [value_ofInt, value_ofInt] at horder
  simp only [reaches, Value.number?, horder]
  exact congrArg Except.ok hge

/-- Where the number of open positions is accepted, it is below the limit. -/
theorem judgeCount_lt
    {limit count : Int} (h : judgeCount (.int limit) count = .ok f) (hf : f.isPass = true) :
  count < limit
  := by
  have hfull := (judgeCount_eq_ok h).2 hf
  rw [reaches_int] at hfull
  simpa using hfull

/-! ### What the verdicts say -/

/-- A decimal that is found not to be at most zero is positive. -/
theorem value_pos_of_atMost
    {x : Decimal} (hx : x.isFinite = true) (h : x.atMost .zero = .ok false) :
  0 < x.value
  := by
  rw [atMost_of_finite hx rfl, value_zero] at h
  simpa using h

/-- A threshold that a number is found not to be less than bounds it from below, unless it is
not finite. -/
theorem value_le_of_less
    {x m : Decimal} (hx : x.isFinite = true) (h : x.less m = .ok false) :
  m.value ≤ x.value ∨ m.value = 0
  := by
  by_cases hm : m.isFinite = true
  · left
    rw [less_of_finite hx hm] at h
    simpa using h
  · right
    exact value_of_not_isFinite hm

/-- A hundred times a result is computed exactly. -/
theorem mul_hundred_eq_ok
    {r t : Decimal} (hr : r.IsResult) (h : r.mul (.ofInt 100) = .ok t) :
  t.isFinite = true ∧ t.value = 100 * r.value
  := by
  obtain ⟨ht, hround⟩ := mul_eq_ok hr.isFinite rfl h
  use ht.isFinite
  obtain ⟨s, c, e⟩ | _ | _ := r
  · obtain ⟨hc, he⟩ := hr
    have hexact : (Decimal.finite s c e).value * (ofInt 100).value
        = (signed s c : ℤ) * 10 ^ (e + 2) := by
      rw [value_ofInt, value, zpow_add₀ (by norm_num)]
      push_cast
      ring
    have habs : |signed s c| = c := by cases s <;> simp [signed]
    rw [hround.eq_of_digits hexact (by omega) (by omega), value_ofInt]
    push_cast
    ring
  · exact hr.elim
  · exact hr.elim

/-- A ratio of rounded numbers that is rounded once more and reaches a threshold shows that the
exact ratio almost does. -/
theorem ratio_bound
    {u X x Y y r m : ℚ} (hu : 0 ≤ u) (hu1 : u ≤ 1) (hX : 0 < X) (hY : 0 < Y) (hy : 0 < y)
    (hx : x ≤ X * (1 + u)) (hy' : Y * (1 - u) ≤ y) (hr : r ≤ x / y * (1 + u)) (hm : m ≤ r) :
  m * Y * (1 - u) ≤ X * (1 + u) ^ 2
  := by
  obtain hneg | hpos := le_or_gt m 0
  · calc m * Y * (1 - u) ≤ 0 := by
          apply mul_nonpos_of_nonpos_of_nonneg _ (by linarith)
          exact mul_nonpos_of_nonpos_of_nonneg hneg hY.le
      _ ≤ X * (1 + u) ^ 2 := by positivity
  · calc m * Y * (1 - u) = m * (Y * (1 - u)) := by ring
      _ ≤ m * y := mul_le_mul_of_nonneg_left hy' hpos.le
      _ ≤ r * y := mul_le_mul_of_nonneg_right hm hy.le
      _ ≤ x / y * (1 + u) * y := mul_le_mul_of_nonneg_right hr hy.le
      _ = x * (1 + u) := by field_simp
      _ ≤ X * (1 + u) * (1 + u) := mul_le_mul_of_nonneg_right hx (by linarith)
      _ = X * (1 + u) ^ 2 := by ring

/-- So does a distance that is computed from rounded numbers. -/
theorem distance_bound
    {u Y y r o p : ℚ} (hu : 0 ≤ u) (ho : 0 < o) (hy : y ≤ Y * (1 + u))
    (hr : r ≤ y / o * (1 + u)) (hp : p ≤ 100 * r) :
  p * o ≤ 100 * Y * (1 + u) ^ 2
  := by
  calc p * o ≤ 100 * r * o := mul_le_mul_of_nonneg_right hp ho.le
    _ ≤ 100 * (y / o * (1 + u)) * o := by
        apply mul_le_mul_of_nonneg_right _ ho.le
        linarith
    _ = 100 * y * (1 + u) := by field_simp
    _ ≤ 100 * (Y * (1 + u)) * (1 + u) := by
        apply mul_le_mul_of_nonneg_right _ (by linarith)
        linarith
    _ = 100 * Y * (1 + u) ^ 2 := by ring

/-- A distance of the stop loss that is accepted has a positive open price. -/
theorem judgeDistance_price
    (ho : o.isFinite = true) {minimum : Decimal} (h : judgeDistance minimum s o = .ok f)
    (hf : f.isPass = true) :
  0 < o.value
  := by
  obtain ⟨y, r, t, hozero, -⟩ := (judgeDistance_eq_ok h).2 hf
  exact value_pos_of_atMost ho hozero

variable (hs : s.IsFinite) (ho : o.isFinite = true)

include hs ho

/-- A ratio of reward to risk that is accepted has a positive risk; and a positive reward if
the minimum is positive. -/
theorem judgeRatio_sides
    {minimum : Decimal} (h : judgeRatio minimum s o = .ok f) (hf : f.isPass = true) :
  0 < s.risk o.value ∧ (0 < minimum.value → 0 < s.reward o.value)
  := by
  obtain ⟨x, y, r, hx, hy, hyzero, hr, hless⟩ := (judgeRatio_eq_ok h).2 hf
  obtain ⟨hxfinite, hreward⟩ := Signal.rewardFrom_eq_ok hs ho hx
  obtain ⟨hyfinite, hrisk⟩ := Signal.riskFrom_eq_ok hs ho hy
  have hypos := value_pos_of_atMost hyfinite hyzero
  use hrisk.pos hypos
  intro hm
  obtain ⟨hrfinite, hratio⟩ := div_eq_ok hxfinite hyfinite hr
  have hmr : minimum.value ≤ r.value :=
    (value_le_of_less hrfinite.isFinite hless).resolve_right hm.ne'
  have hquotient := hratio.pos (hm.trans_le hmr)
  exact hreward.pos ((div_pos_iff_of_pos_right hypos).mp hquotient)

/-- The exact ratio is not far below the minimum. -/
theorem judgeRatio_bound
    {minimum : Decimal} (h : judgeRatio minimum s o = .ok f) (hf : f.isPass = true)
    (hkeeps : s.RatioKeepsDigits o) (hreward : 0 < s.reward o.value) :
  minimum.value * s.risk o.value * (1 - unitRoundoff)
    ≤ s.reward o.value * (1 + unitRoundoff) ^ 2
  := by
  have hrisk := (judgeRatio_sides hs ho h hf).1
  obtain ⟨x, y, r, hx, hy, hyzero, hr, hless⟩ := (judgeRatio_eq_ok h).2 hf
  obtain ⟨hxfinite, hxround⟩ := Signal.rewardFrom_eq_ok hs ho hx
  obtain ⟨hyfinite, hyround⟩ := Signal.riskFrom_eq_ok hs ho hy
  obtain ⟨hrfinite, hrround⟩ := div_eq_ok hxfinite hyfinite hr
  have hypos := value_pos_of_atMost hyfinite hyzero
  obtain ⟨hxlow, hxhigh⟩ := hxround.bounds (hkeeps.reward x hx) hreward
  obtain ⟨hylow, -⟩ := hyround.bounds (hkeeps.risk y hy) hrisk
  have hxpos : 0 < x.value :=
    lt_of_lt_of_le (mul_pos hreward (by norm_num [unitRoundoff])) hxlow
  obtain ⟨-, hrhigh⟩ := hrround.bounds (hkeeps.ratio x y r hx hy hr) (div_pos hxpos hypos)
  obtain hm | hm := value_le_of_less hrfinite.isFinite hless
  · exact ratio_bound (by norm_num [unitRoundoff]) (by norm_num [unitRoundoff]) hreward hrisk
      hypos hxhigh hylow hrhigh hm
  · rw [hm, zero_mul, zero_mul]
    positivity

/-- The exact distance is not far below the minimum. -/
theorem judgeDistance_bound
    {minimum : Decimal} (h : judgeDistance minimum s o = .ok f) (hf : f.isPass = true)
    (hkeeps : s.DistanceKeepsDigits o) (hrisk : 0 < s.risk o.value) :
  minimum.value * o.value ≤ 100 * s.risk o.value * (1 + unitRoundoff) ^ 2
  := by
  have hopos := judgeDistance_price ho h hf
  obtain ⟨y, r, t, -, hy, hr, ht, hless⟩ := (judgeDistance_eq_ok h).2 hf
  obtain ⟨hyfinite, hyround⟩ := Signal.riskFrom_eq_ok hs ho hy
  obtain ⟨hrfinite, hrround⟩ := div_eq_ok hyfinite ho hr
  obtain ⟨htfinite, htvalue⟩ := mul_hundred_eq_ok hrfinite ht
  obtain ⟨hylow, hyhigh⟩ := hyround.bounds (hkeeps.risk y hy) hrisk
  have hypos : 0 < y.value :=
    lt_of_lt_of_le (mul_pos hrisk (by norm_num [unitRoundoff])) hylow
  obtain ⟨-, hrhigh⟩ := hrround.bounds (hkeeps.share y r hy hr) (div_pos hypos hopos)
  obtain hm | hm := value_le_of_less htfinite hless
  · exact distance_bound (by norm_num [unitRoundoff]) hopos hyhigh hrhigh (htvalue ▸ hm)
  · rw [hm, zero_mul]
    positivity

end Gate

end TradeGate
