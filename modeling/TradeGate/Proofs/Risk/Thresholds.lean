import TradeGate.Proofs.Decimal.Digits
import TradeGate.Proofs.Decimal.Places
import TradeGate.Proofs.Risk.Strictness

/-!
# Figures and thresholds

A price gate computes one figure of a signal and compares it with its minimum.  Where the
differences of prices have at most 28 digits, a figure that exactly reaches the minimum is
accepted, although the computed one is rounded.  Where no operation overflows, the gate ends with
a verdict, and gives the figure with two decimals as the reason why it is too low; but a figure
below the minimum that has more than 28 digits down to the second decimal cannot be given, and
stops the gate.
-/

namespace TradeGate

open Decimal

/-! ### Figures -/

namespace Signal

/-- No operation of the ratio of reward to risk gives a number that is too large. -/
structure RatioStaysInRange (s : Signal) (o : Decimal) : Prop where
  reward : s.rewardFrom o ≠ .error .overflow
  risk : s.riskFrom o ≠ .error .overflow
  ratio : ∀ x y, s.rewardFrom o = .ok x → s.riskFrom o = .ok y → x.div y ≠ .error .overflow

/-- No operation of the distance of the stop loss gives a number that is too large. -/
structure DistanceStaysInRange (s : Signal) (o : Decimal) : Prop where
  risk : s.riskFrom o ≠ .error .overflow
  share : ∀ y, s.riskFrom o = .ok y → y.div o ≠ .error .overflow
  percent : ∀ y r, s.riskFrom o = .ok y → y.div o = .ok r →
    r.mul (.ofInt 100) ≠ .error .overflow

variable {s : Signal} {o x y r t : Decimal}

/-- Operations that end well do not overflow. -/
theorem RatioStaysInRange.of_ok
    (hx : s.rewardFrom o = .ok x) (hy : s.riskFrom o = .ok y) (hr : x.div y = .ok r) :
  s.RatioStaysInRange o
  := by
  constructor
  case reward => simp [hx]
  case risk => simp [hy]
  case ratio =>
    intro x' y' hx' hy'
    rw [hx] at hx'
    rw [hy] at hy'
    cases hx'
    cases hy'
    simp [hr]

theorem DistanceStaysInRange.of_ok
    (hy : s.riskFrom o = .ok y) (hr : y.div o = .ok r) (ht : r.mul (.ofInt 100) = .ok t) :
  s.DistanceStaysInRange o
  := by
  constructor
  case risk => simp [hy]
  case share =>
    intro y' hy'
    rw [hy] at hy'
    cases hy'
    simp [hr]
  case percent =>
    intro y' r' hy' hr'
    rw [hy] at hy'
    cases hy'
    rw [hr] at hr'
    cases hr'
    simp [ht]

/-- Operations on numbers that are not too small keep their digits. -/
theorem RatioKeepsDigits.of_ok
    (hx : s.rewardFrom o = .ok x) (hy : s.riskFrom o = .ok y) {k : ℤ}
    (hk : minLast + precision - 1 ≤ k) (hreward : 10 ^ k ≤ |s.reward o.value|)
    (hrisk : 10 ^ k ≤ |s.risk o.value|) (hratio : 10 ^ k ≤ |x.value / y.value|) :
  s.RatioKeepsDigits o
  := by
  constructor
  case reward => exact fun _ _ => not_underflows hk hreward
  case risk => exact fun _ _ => not_underflows hk hrisk
  case ratio =>
    intro x' y' r hx' hy' _
    rw [hx] at hx'
    rw [hy] at hy'
    cases hx'
    cases hy'
    exact not_underflows hk hratio

theorem DistanceKeepsDigits.of_ok
    (hy : s.riskFrom o = .ok y) {k : ℤ} (hk : minLast + precision - 1 ≤ k)
    (hrisk : 10 ^ k ≤ |s.risk o.value|) (hshare : 10 ^ k ≤ |y.value / o.value|) :
  s.DistanceKeepsDigits o
  := by
  constructor
  case risk => exact fun _ _ => not_underflows hk hrisk
  case share =>
    intro y' r hy' _
    rw [hy] at hy'
    cases hy'
    exact not_underflows hk hshare

end Signal

/-- The two figures that gates compare with a minimum: the ratio of reward to risk, and the
distance of the stop loss in percent of the open price. -/
inductive Figure where
  | ratio
  | distance

namespace Figure

/-- The gate that compares the figure with a minimum. -/
def gate : Figure → Decimal → Gate
  | ratio, m => .rewardRisk m
  | distance, m => .stopDistance m

/-- What the gate says of a figure that is below the minimum. -/
def complaint : Figure → (figure minimum : String) → String
  | ratio, r, m => "Poor R/R ratio: " ++ r ++ " (minimum " ++ m ++ ")"
  | distance, r, m => "SL too close: " ++ r ++ "% (minimum " ++ m ++ "%)"

/-- The exact number that has to be positive for the figure to make sense. -/
def divisor : Figure → Signal → Decimal → ℚ
  | ratio, s, o => s.risk o.value
  | distance, _, o => o.value

/-- The exact figure. -/
def exact : Figure → Signal → Decimal → ℚ
  | ratio, s, o => s.reward o.value / s.risk o.value
  | distance, s, o => 100 * s.risk o.value / o.value

/-- The gate gets to compare `r` with its minimum. -/
def Computes : Figure → Signal → Decimal → Decimal → Prop
  | ratio, s, o, r => ∃ x y, s.rewardFrom o = .ok x ∧ s.riskFrom o = .ok y ∧ 0 < y.value
    ∧ x.div y = .ok r
  | distance, s, o, r => 0 < o.value ∧ Gate.distanceOf s o = .ok r

/-- No operation overflows. -/
def StaysInRange : Figure → Signal → Decimal → Prop
  | ratio, s, o => s.RatioStaysInRange o
  | distance, s, o => s.DistanceStaysInRange o

/-- No digits are lost at the least exponent. -/
def KeepsDigits : Figure → Signal → Decimal → Prop
  | ratio, s, o => s.RatioKeepsDigits o
  | distance, s, o => s.DistanceKeepsDigits o

/-- The differences of prices have at most 28 digits. -/
def HasDigits : Figure → Signal → Decimal → Prop
  | ratio, s, o => Decimal.HasDigits (s.reward o.value) ∧ Decimal.HasDigits (s.risk o.value)
  | distance, s, o => Decimal.HasDigits (s.risk o.value)

end Figure

/-- A number is found to be at most zero exactly if it is. -/
theorem Decimal.atMost_zero
    {x : Decimal} (hx : x.isFinite = true) :
  x.atMost .zero = .ok (decide (x.value ≤ 0))
  := by
  rw [atMost_of_finite hx rfl, value_zero]

/-- A result with two decimals, a half going away from zero. -/
def Decimal.hundredths : Decimal → Decimal
  | finite s c e => finite s (unitsAt (-2) (finite s c e).value) (-2)
  | x => x

/-- A figure is written with two decimals, unless it has more than 28 digits down to these. -/
theorem Gate.figureText_eq
    {r : Decimal} (hr : r.IsResult) :
  figureText r
    = if |r.value| < 10 ^ 26 then .ok r.hundredths.text else .error .invalidOperation
  := by
  obtain ⟨s, c, e⟩ | _ | _ := r
  · have hpow : (10 : ℚ) ^ (-2 + (precision : ℤ)) = 10 ^ 26 := by norm_num [precision]
    rw [figureText, roundTo_of_isResult hr, hpow]
    split_ifs <;> rfl
  · exact hr.elim
  · exact hr.elim

namespace Figure

variable {s : Signal} {o r : Decimal}

theorem distanceOf_eq_ok
    {t : Decimal} :
  Gate.distanceOf s o = .ok t
    ↔ ∃ y r, s.riskFrom o = .ok y ∧ y.div o = .ok r ∧ r.mul (.ofInt 100) = .ok t
  := by
  simp only [Gate.distanceOf, bind_eq_ok]
  constructor
  · rintro ⟨y, hy, r, hr, ht⟩
    use y, r
  · rintro ⟨y, r, hy, hr, ht⟩
    use y, hy, r, hr

/-- The ratio is computed where the risk is positive. -/
theorem exists_ratio
    (hs : s.IsFinite) (ho : o.isFinite = true) (h : s.RatioStaysInRange o) :
  ∃ x y, s.rewardFrom o = .ok x ∧ s.riskFrom o = .ok y ∧ (0 < y.value → ∃ r, x.div y = .ok r)
  := by
  obtain ⟨x, hx⟩ := (Signal.rounds_rewardFrom hs ho).exists_of_ne_overflow h.reward
  obtain ⟨y, hy⟩ := (Signal.rounds_riskFrom hs ho).exists_of_ne_overflow h.risk
  use x, y, hx, hy
  intro hpos
  have hxfinite := (Signal.rewardFrom_eq_ok hs ho hx).1
  have hyfinite := (Signal.riskFrom_eq_ok hs ho hy).1
  exact (rounds_div hxfinite hyfinite hpos.ne').exists_of_ne_overflow (h.ratio x y hx hy)

/-- The distance is computed where the open price is positive. -/
theorem exists_distance
    (hs : s.IsFinite) (ho : o.isFinite = true) (h : s.DistanceStaysInRange o)
    (hpos : 0 < o.value) :
  ∃ t, Gate.distanceOf s o = .ok t
  := by
  obtain ⟨y, hy⟩ := (Signal.rounds_riskFrom hs ho).exists_of_ne_overflow h.risk
  have hyfinite := (Signal.riskFrom_eq_ok hs ho hy).1
  obtain ⟨r, hr⟩ := (rounds_div hyfinite ho hpos.ne').exists_of_ne_overflow (h.share y hy)
  have hrfinite := (div_eq_ok hyfinite ho hr).1.isFinite
  obtain ⟨t, ht⟩ := (rounds_mul hrfinite rfl).exists_of_ne_overflow (h.percent y r hy hr)
  use t
  exact distanceOf_eq_ok.mpr ⟨y, r, hy, hr, ht⟩

/-- A computed figure is a result. -/
theorem isResult_of_computes
    {q : Figure} (hs : s.IsFinite) (ho : o.isFinite = true) (h : q.Computes s o r) :
  r.IsResult
  := by
  cases q with
  | ratio =>
    obtain ⟨x, y, hx, hy, -, hr⟩ := h
    have hxfinite := (Signal.rewardFrom_eq_ok hs ho hx).1
    have hyfinite := (Signal.riskFrom_eq_ok hs ho hy).1
    exact (div_eq_ok hxfinite hyfinite hr).1
  | distance =>
    obtain ⟨y, p, hy, hp, hr⟩ := distanceOf_eq_ok.mp h.2
    have hyfinite := (Signal.riskFrom_eq_ok hs ho hy).1
    have hpfinite := (div_eq_ok hyfinite ho hp).1.isFinite
    exact (mul_eq_ok hpfinite rfl hr).1

/-! ### Verdicts -/

variable {i : Inspection} {m : Decimal}

/-- A gate ends as its figure compares with its minimum. -/
theorem judge_of_computes
    {q : Figure} (hi : i.signal.IsFinite) (ho : i.signal.openPrice = some o)
    (hm : m.isFinite = true) (h : q.Computes i.signal o r) :
  (q.gate m).judge i
    = if r.value < m.value then
        if |r.value| < 10 ^ 26 then
          .ok (.fail (.text (q.complaint r.hundredths.text m.text)))
        else .error (.trapped .invalidOperation)
      else .ok .pass
  := by
  have hofinite := hi.openPrice o ho
  have hr := isResult_of_computes hi hofinite h
  have hless := less_of_finite hr.isFinite hm
  have htext := Gate.figureText_eq hr
  cases q with
  | ratio =>
    obtain ⟨x, y, hx, hy, hpos, hdiv⟩ := h
    have hzero := atMost_zero (Signal.riskFrom_eq_ok hi hofinite hy).1
    rw [decide_eq_false hpos.not_ge] at hzero
    simp only [gate, Gate.judge, ho, Gate.judgeRatio, hx, hy, hzero, hdiv, hless, htext, bind,
      Except.bind, pure, Except.pure, Bool.false_eq_true, if_false, decide_eq_true_eq]
    split_ifs <;> rfl
  | distance =>
    obtain ⟨hpos, hdistance⟩ := h
    have hzero := atMost_zero hofinite
    rw [decide_eq_false hpos.not_ge] at hzero
    simp only [gate, Gate.judge, ho, Gate.judgeDistance, hzero, hdistance, hless, htext, bind,
      Except.bind, pure, Except.pure, Bool.false_eq_true, if_false, decide_eq_true_eq]
    split_ifs <;> rfl

/-- Where no operation overflows, a gate computes its figure, or it refuses the signal before. -/
theorem computes_or_refuses
    {q : Figure} (hi : i.signal.IsFinite) (ho : i.signal.openPrice = some o)
    (hrange : q.StaysInRange i.signal o) (m : Decimal) :
  (∃ r, q.Computes i.signal o r) ∨ ∃ text, (q.gate m).judge i = .ok (.fail (.text text))
  := by
  have hofinite := hi.openPrice o ho
  cases q with
  | ratio =>
    obtain ⟨x, y, hx, hy, hdiv⟩ := exists_ratio hi hofinite hrange
    obtain hpos | hneg := lt_or_ge 0 y.value
    · left
      obtain ⟨r, hr⟩ := hdiv hpos
      use r, x, y
    · right
      have hzero := atMost_zero (Signal.riskFrom_eq_ok hi hofinite hy).1
      rw [decide_eq_true hneg] at hzero
      use "Invalid SL placement: stop loss is on the wrong side of entry"
      simp only [gate, Gate.judge, ho, Gate.judgeRatio, hx, hy, hzero, bind, Except.bind, pure,
        Except.pure, if_true]
      rfl
  | distance =>
    obtain hpos | hneg := lt_or_ge 0 o.value
    · left
      obtain ⟨r, hr⟩ := exists_distance hi hofinite hrange hpos
      use r, hpos
    · right
      have hzero := atMost_zero hofinite
      rw [decide_eq_true hneg] at hzero
      use "Invalid open price: " ++ o.text
      simp only [gate, Gate.judge, ho, Gate.judgeDistance, hzero, bind, Except.bind, pure,
        Except.pure, if_true]
      rfl

/-- Where no operation overflows, a price gate ends with a verdict, unless its figure is below the
minimum and has more than 28 digits down to the second decimal.  A figure below the minimum is
given with two decimals in the reason, beside the minimum; where it cannot be, the gate stops. -/
theorem gate_gives_verdict_unless_too_long
    (q : Figure) (hm : m.isFinite = true) (hi : i.signal.IsFinite)
    (hrange : ∀ o ∈ i.signal.openPrice, q.StaysInRange i.signal o) :
  ((∀ o ∈ i.signal.openPrice, ∀ r, q.Computes i.signal o r → r.value < m.value →
      |r.value| < 10 ^ 26) →
    ∃ f, (q.gate m).judge i = .ok f ∧ Gate.IsVerdict f)
  ∧ (∀ o ∈ i.signal.openPrice, ∀ r, q.Computes i.signal o r → r.value < m.value →
      (q.gate m).judge i
        = if |r.value| < 10 ^ 26 then
            .ok (.fail (.text (q.complaint r.hundredths.text m.text)))
          else .error (.trapped .invalidOperation))
  := by
  constructor
  · intro hshort
    cases ho : i.signal.openPrice with
    | none =>
      refine ⟨.pass, ?_, .inl rfl⟩
      cases q <;> simp only [gate, Gate.judge, ho]
    | some o =>
      obtain ⟨r, hr⟩ | ⟨text, htext⟩ := computes_or_refuses hi ho (hrange o ho) m
      · rw [judge_of_computes hi ho hm hr]
        split_ifs with hlow hlong
        · exact ⟨_, rfl, .inr ⟨rfl, _, rfl⟩⟩
        · exact absurd (hshort o ho r hr hlow) hlong
        · exact ⟨.pass, rfl, .inl rfl⟩
      · exact ⟨_, htext, .inr ⟨rfl, text, rfl⟩⟩
  · intro o ho r hr hlow
    rw [judge_of_computes hi ho hm hr, if_pos hlow]

/-- A long trade at 7 that risks 3 for a reward of 2. -/
def sevenths : Inspection :=
  { (default : Inspection) with
    signal := ⟨"BTC", .long, .ofInt 9, .ofInt 4, some (.ofInt 7), none, ""⟩ }

theorem isFinite_sevenths :
  sevenths.signal.IsFinite
  where
  takeProfit := rfl
  stopLoss := rfl
  openPrice := by
    rintro o ⟨rfl⟩
    rfl

theorem reward_sevenths :
  sevenths.signal.rewardFrom (.ofInt 7) = .ok (.ofInt 2)
  := by
  decide +kernel

theorem risk_sevenths :
  sevenths.signal.riskFrom (.ofInt 7) = .ok (.ofInt 3)
  := by
  decide +kernel

/-- The first 28 digits of two thirds. -/
def twoThirds : Decimal := .finite false 6666666666666666666666666667 (-28)

theorem div_twoThirds :
  (Decimal.ofInt 2).div (.ofInt 3) = .ok twoThirds
  := by
  decide +kernel

theorem gate_gives_verdict_sevenths :
  sevenths.signal.RatioStaysInRange (.ofInt 7)
    ∧ (ratio.gate (.ofInt 2)).judge sevenths
      = .ok (.fail (.text "Poor R/R ratio: 0.67 (minimum 2)"))
  := by
  have hrange := Signal.RatioStaysInRange.of_ok reward_sevenths risk_sevenths div_twoThirds
  use hrange
  have hall : ∀ o ∈ sevenths.signal.openPrice, ratio.StaysInRange sevenths.signal o := by
    rintro o ⟨rfl⟩
    exact hrange
  have hcomputes : ratio.Computes sevenths.signal (.ofInt 7) twoThirds :=
    ⟨_, _, reward_sevenths, risk_sevenths, by norm_num, div_twoThirds⟩
  have hvalue : twoThirds.value = 6666666666666666666666666667 / 10 ^ 28 := by
    norm_num [twoThirds, value_positive, zpow_neg]
  have hlow : twoThirds.value < (Decimal.ofInt 2).value := by
    rw [hvalue, value_ofInt]
    norm_num
  have htext : ratio.complaint twoThirds.hundredths.text (Decimal.ofInt 2).text
      = "Poor R/R ratio: 0.67 (minimum 2)" := by
    rw [twoThirds, hundredths, unitsAt_of_lt _ _ (by norm_num)]
    decide +kernel
  rw [(gate_gives_verdict_unless_too_long ratio rfl isFinite_sevenths hall).2 _ rfl _ hcomputes
    hlow, htext, if_pos]
  rw [hvalue]
  norm_num [abs_of_pos]

/-- A long trade at 100 whose target is below the open price, at 10 ^ 26 times the distance of the
stop loss. -/
def steepLoss : Inspection :=
  { (default : Inspection) with
    signal := ⟨"BTC", .long, .ofInt 99, .finite false 9999999999999999999999999999 (-26),
      some (.ofInt 100), none, ""⟩ }

/-- A ratio that is too low by far cannot be given with two decimals: the gate stops, although no
operation overflows. -/
theorem gate_stops_on_steepLoss :
  steepLoss.signal.IsFinite ∧ steepLoss.signal.RatioStaysInRange (.ofInt 100)
    ∧ (ratio.gate (.ofInt 2)).judge steepLoss = .error (.trapped .invalidOperation)
  := by
  have hfinite : steepLoss.signal.IsFinite := by
    refine ⟨rfl, rfl, ?_⟩
    rintro o ⟨rfl⟩
    rfl
  have hreward : steepLoss.signal.rewardFrom (.ofInt 100) = .ok (.ofInt (-1)) := by
    decide +kernel
  have hrisk : steepLoss.signal.riskFrom (.ofInt 100) = .ok (.finite false 1 (-26)) := by
    decide +kernel
  have hratio : (Decimal.ofInt (-1)).div (.finite false 1 (-26)) = .ok (.finite true 1 26) := by
    decide +kernel
  have hcomputes : ratio.Computes steepLoss.signal (.ofInt 100) (.finite true 1 26) :=
    ⟨_, _, hreward, hrisk, by norm_num, hratio⟩
  use hfinite, .of_ok hreward hrisk hratio
  rw [judge_of_computes hfinite rfl rfl hcomputes, value_negative, value_ofInt, if_pos (by norm_num),
    if_neg (by norm_num)]

/-! ### Figures that reach the minimum -/

/-- A number of at most 28 digits that the exact figure reaches is reached by the computed one. -/
theorem le_of_computes
    {q : Figure} (hs : s.IsFinite) (ho : o.isFinite = true) (h : q.Computes s o r)
    (hkeeps : q.KeepsDigits s o) (hdigits : q.HasDigits s o) {b : ℚ}
    (hb : Decimal.HasDigits b) (hle : b ≤ q.exact s o) :
  b ≤ r.value
  := by
  cases q with
  | ratio =>
    obtain ⟨x, y, hx, hy, -, hr⟩ := h
    obtain ⟨hxfinite, hxround⟩ := Signal.rewardFrom_eq_ok hs ho hx
    obtain ⟨hyfinite, hyround⟩ := Signal.riskFrom_eq_ok hs ho hy
    have hreward := hxround.eq_of_hasDigits (hkeeps.reward x hx) hdigits.1
    have hrisk := hyround.eq_of_hasDigits (hkeeps.risk y hy) hdigits.2
    apply (div_eq_ok hxfinite hyfinite hr).2.le_of_hasDigits (hkeeps.ratio x y r hx hy hr) hb
    rw [hreward, hrisk]
    exact hle
  | distance =>
    obtain ⟨y, p, hy, hp, hr⟩ := distanceOf_eq_ok.mp h.2
    obtain ⟨hyfinite, hyround⟩ := Signal.riskFrom_eq_ok hs ho hy
    obtain ⟨hpresult, hpround⟩ := div_eq_ok hyfinite ho hp
    have hrisk := hyround.eq_of_hasDigits (hkeeps.risk y hy) hdigits
    have hshare : b / 100 ≤ p.value := by
      apply hpround.le_of_hasDigits (hkeeps.share y p hy hp) hb.div_hundred
      rw [hrisk, div_le_iff₀ (by norm_num), div_mul_eq_mul_div, mul_comm]
      exact hle
    rw [(Gate.mul_hundred_eq_ok hpresult hr).2]
    linarith

/-- Where the risk, or the open price, is positive, the figure is computed. -/
theorem exists_computes
    {q : Figure} (hs : s.IsFinite) (ho : o.isFinite = true) (hrange : q.StaysInRange s o)
    (hkeeps : q.KeepsDigits s o) (hdigits : q.HasDigits s o) (hpos : 0 < q.divisor s o) :
  ∃ r, q.Computes s o r
  := by
  cases q with
  | ratio =>
    obtain ⟨x, y, hx, hy, hdiv⟩ := exists_ratio hs ho hrange
    have hrisk := (Signal.riskFrom_eq_ok hs ho hy).2.eq_of_hasDigits (hkeeps.risk y hy) hdigits.2
    have hypos : 0 < y.value := hpos.trans_eq hrisk.symm
    obtain ⟨r, hr⟩ := hdiv hypos
    use r, x, y
  | distance =>
    obtain ⟨r, hr⟩ := exists_distance hs ho hrange hpos
    use r, hpos

/-- A figure that exactly reaches a minimum of at most 28 digits is accepted, if the differences
of prices have at most 28 digits and no operation overflows or loses digits at the least
exponent. -/
theorem gate_accepts_of_le
    (q : Figure) (hm : m.isFinite = true) (hmdigits : Decimal.HasDigits m.value)
    (hi : i.signal.IsFinite) (ho : i.signal.openPrice = some o)
    (hdigits : q.HasDigits i.signal o) (hkeeps : q.KeepsDigits i.signal o)
    (hrange : q.StaysInRange i.signal o) (hpos : 0 < q.divisor i.signal o)
    (hle : m.value ≤ q.exact i.signal o) :
  (q.gate m).judge i = .ok .pass
  := by
  have hofinite := hi.openPrice o ho
  obtain ⟨r, hr⟩ := exists_computes hi hofinite hrange hkeeps hdigits hpos
  have hreach := le_of_computes hi hofinite hr hkeeps hdigits hmdigits hle
  rw [judge_of_computes hi ho hm hr, if_neg hreach.not_gt]

theorem gate_accepts_sevenths :
  (ratio.gate (.finite false 6666666666666666666666666666 (-28))).judge sevenths = .ok .pass
    ∧ (distance.gate (.finite false 4285714285714285714285714285 (-26))).judge sevenths
      = .ok .pass
  := by
  have hshare : (Decimal.ofInt 3).div (.ofInt 7)
      = .ok (.finite false 4285714285714285714285714286 (-28)) := by
    decide +kernel
  have hpercent : (Decimal.finite false 4285714285714285714285714286 (-28)).mul (.ofInt 100)
      = .ok (.finite false 4285714285714285714285714286 (-26)) := by
    decide +kernel
  have hopen : sevenths.signal.openPrice = some (.ofInt 7) := rfl
  have hreward : sevenths.signal.reward (Decimal.ofInt 7).value = 2 := by
    norm_num [sevenths, Signal.reward]
  have hrisk : sevenths.signal.risk (Decimal.ofInt 7).value = 3 := by
    norm_num [sevenths, Signal.risk]
  have htwo : Decimal.HasDigits 2 := ⟨2, 0, by decide, by norm_num⟩
  have hthree : Decimal.HasDigits 3 := ⟨3, 0, by decide, by norm_num⟩
  constructor
  · apply gate_accepts_of_le ratio rfl _ isFinite_sevenths hopen
    case hdigits =>
      rw [HasDigits, hreward, hrisk]
      exact ⟨htwo, hthree⟩
    case hkeeps =>
      apply Signal.RatioKeepsDigits.of_ok reward_sevenths risk_sevenths (k := -1) (by decide)
      · rw [hreward]
        norm_num
      · rw [hrisk]
        norm_num
      · norm_num
    case hrange => exact .of_ok reward_sevenths risk_sevenths div_twoThirds
    case hpos =>
      rw [divisor, hrisk]
      norm_num
    case hle =>
      rw [exact, hreward, hrisk]
      norm_num
    · exact ⟨6666666666666666666666666666, -28, by decide, by norm_num⟩
  · apply gate_accepts_of_le distance rfl _ isFinite_sevenths hopen
    case hdigits =>
      rw [HasDigits, hrisk]
      exact hthree
    case hkeeps =>
      apply Signal.DistanceKeepsDigits.of_ok risk_sevenths (k := -1) (by decide)
      · rw [hrisk]
        norm_num
      · norm_num
    case hrange => exact .of_ok risk_sevenths hshare hpercent
    case hpos => norm_num [divisor]
    case hle =>
      rw [exact, hrisk]
      norm_num
    · exact ⟨4285714285714285714285714285, -26, by decide, by norm_num⟩

end Figure

end TradeGate
