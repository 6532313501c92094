import TradeGate.Builder
import TradeGate.Proofs.Risk.PriceGates

/-!
# Trend signals at the gate for the ratio

A trend signal has its take profit and its stop loss at multiples of the average true range from
the price.  Where these distances and the prices at their ends are exact, the reward and the risk
at the price are the distances again, and the range cancels out of their ratio.  So the gate for
the ratio compares the quotient of the two multiples with its minimum, whatever the price, the
average and the range are.
-/

namespace TradeGate

open Decimal

/-! ### Operations on decimals among values -/

namespace Value

theorem order_of_finite
    (relation : String) {x y : Value} {a b : Decimal} (hx : x.number? = some a)
    (hy : y.number? = some b) (ha : a.isFinite = true) (hb : b.isFinite = true) :
  order relation x y = .ok (some (compare a.value b.value))
  := by
  have horder := Decimal.order_of_finite ha hb
  unfold Decimal.order at horder
  cases h : Decimal.order? a b with
  | none => simp [h] at horder
  | some o =>
    simp only [h, Except.ok.injEq] at horder
    simp only [order, hx, hy, h, horder]

/-- The product of two decimals with a representable product is exact. -/
theorem times_of_representable
    {a b : Decimal} (ha : a.isFinite = true) (hb : b.isFinite = true)
    (h : Representable (a.value * b.value)) :
  ∃ z, times (.decimal a) (.decimal b) = .ok (.decimal z) ∧ z.isFinite = true
    ∧ z.value = a.value * b.value
  := by
  obtain ⟨z, hz, hfinite, hvalue⟩ := (rounds_mul ha hb).exists_of_representable h
  have htimes : times (.decimal a) (.decimal b) = ((a.mul b).map Value.decimal).mapError .trapped :=
    rfl
  refine ⟨z, ?_, hfinite, hvalue⟩
  rw [htimes, hz]
  rfl

end Value

/-! ### The prices of a trend signal -/

namespace Side

/-- The exact price of the take profit at a distance. -/
def target (side : Side) (price distance : ℚ) : ℚ :=
  match side with
  | long => price + distance
  | short => price - distance

/-- The exact price of the stop loss at a distance. -/
def stop (side : Side) (price distance : ℚ) : ℚ :=
  match side with
  | long => price - distance
  | short => price + distance

end Side

namespace TrendBuilder

/-- The distances of a trend signal and the prices at their ends are exact. -/
structure IsExact (profitMultiple lossMultiple price ema atr : ℚ) : Prop where
  profit : Representable (atr * profitMultiple)
  loss : Representable (atr * lossMultiple)
  long : ema < price → Representable (price + atr * profitMultiple)
    ∧ Representable (price - atr * lossMultiple)
  short : price < ema → Representable (price - atr * profitMultiple)
    ∧ Representable (price + atr * lossMultiple)

/-- The exact side that a price proposes against its average. -/
def sideAt (price ema : ℚ) : Option Side :=
  if ema < price then some .long else if price < ema then some .short else none

theorem IsExact.targets
    {tp sl price ema atr : ℚ} (h : IsExact tp sl price ema atr) {side : Side}
    (hside : sideAt price ema = some side) :
  Representable (side.target price (atr * tp)) ∧ Representable (side.stop price (atr * sl))
  := by
  unfold sideAt at hside
  split_ifs at hside with hlong hshort <;> cases hside
  · exact h.long hlong
  · exact h.short hshort

theorem sideOf?_eq
    {price ema : Decimal} (hprice : price.isFinite = true) (hema : ema.isFinite = true) :
  sideOf? price (.decimal ema) = .ok (sideAt price.value ema.value)
  := by
  unfold sideOf? sideAt
  rw [Value.order_of_finite _ rfl rfl hprice hema]
  obtain hlt | heq | hgt := lt_trichotomy price.value ema.value
  · rw [compare_lt_iff_lt.mpr hlt, if_neg hlt.le.not_gt, if_pos hlt]
    rfl
  · rw [compare_eq_iff_eq.mpr heq, if_neg heq.le.not_gt, if_neg heq.ge.not_gt]
    rfl
  · rw [compare_gt_iff_gt.mpr hgt, if_pos hgt]
    rfl

variable {price profit loss t l : Decimal} {side : Side}

/-- The prices at representable ends are exact. -/
theorem exists_targets
    (hprice : price.isFinite = true) (hprofit : profit.isFinite = true)
    (hloss : loss.isFinite = true) (ht : Representable (side.target price.value profit.value))
    (hl : Representable (side.stop price.value loss.value)) :
  ∃ t l, targets side price (.decimal profit) (.decimal loss) = .ok (t, l)
    ∧ t.isFinite = true ∧ l.isFinite = true
    ∧ t.value = side.target price.value profit.value
    ∧ l.value = side.stop price.value loss.value
  := by
  have hshifted (operation : Decimal → Decimal → Except Trap Decimal) (sign : String)
      (d : Decimal) :
      Value.shifted operation sign price (.decimal d) = (operation price d).mapError .trapped :=
    rfl
  cases side with
  | long =>
    obtain ⟨t, htok, htfinite, htvalue⟩ := (rounds_add hprice hprofit).exists_of_representable ht
    obtain ⟨l, hlok, hlfinite, hlvalue⟩ := (rounds_sub hprice hloss).exists_of_representable hl
    refine ⟨t, l, ?_, htfinite, hlfinite, htvalue, hlvalue⟩
    rw [targets, hshifted, hshifted, htok, hlok]
    rfl
  | short =>
    obtain ⟨t, htok, htfinite, htvalue⟩ := (rounds_sub hprice hprofit).exists_of_representable ht
    obtain ⟨l, hlok, hlfinite, hlvalue⟩ := (rounds_add hprice hloss).exists_of_representable hl
    refine ⟨t, l, ?_, htfinite, hlfinite, htvalue, hlvalue⟩
    rw [targets, hshifted, hshifted, htok, hlok]
    rfl

/-- Finite prices make up a signal. -/
theorem signalAt_eq
    (tick : Tick) (side : Side) (ht : t.isFinite = true) (hl : l.isFinite = true) (note : String) :
  signalAt tick side t l note
    = .ok ⟨tick.symbol, side, t, l, none, some tick.timestamp, note⟩
  := by
  apply Reading.mapError_finish_eq_ok.mpr
  simp [Fields.required, Value.lookup, Value.readDecimal, Value.finiteDecimal_eq_done, ht, hl]

/-- A market entry of finite prices whose reward and risk at a price are given distances. -/
structure IsTrend (s : Signal) (price profit loss : ℚ) : Prop where
  finite : s.IsFinite
  openPrice : s.openPrice = none
  reward : s.reward price = profit
  risk : s.risk price = loss

variable {tp sl ema atr : Decimal} {tick : Tick}

theorem isMissing_decimal
    {d : Decimal} (hd : d.isFinite = true) :
  isMissing (.decimal d) = false
  := by
  cases d <;> simp_all [isMissing, isNaN, isFinite]

/-- No signal is proposed where the range is not positive. -/
theorem propose?_of_atr_le
    (hema : ema.isFinite = true) (hatr : atr.isFinite = true) (hle : atr.value ≤ 0)
    (b : TrendBuilder) :
  b.propose? tick (.decimal ema) (.decimal atr) = .ok none
  := by
  have horder := Value.order_of_finite "<=" (x := .decimal atr) (y := .int 0) rfl rfl hatr
    (isFinite_ofInt 0)
  rw [value_ofInt, Int.cast_zero] at horder
  simp only [propose?, isMissing_decimal hema, isMissing_decimal hatr, horder, Bool.or_self,
    Bool.false_eq_true, if_false]
  obtain hlt | heq := hle.lt_or_eq
  · rw [compare_lt_iff_lt.mpr hlt]
    rfl
  · rw [compare_eq_iff_eq.mpr heq]
    rfl

variable (htp : tp.isFinite = true) (hsl : sl.isFinite = true)
  (hprice : tick.price.isFinite = true) (hema : ema.isFinite = true) (hatr : atr.isFinite = true)
  (hpos : 0 < atr.value) (h : IsExact tp.value sl.value tick.price.value ema.value atr.value)

include htp hsl hprice hema hatr hpos h

/-- Where the range is positive and the distances are exact, the signal for the side of the price
is proposed at the targets for these distances. -/
theorem propose?_eq_bind :
  ∃ profit loss : Decimal,
    (profit.isFinite = true ∧ profit.value = atr.value * tp.value)
    ∧ (loss.isFinite = true ∧ loss.value = atr.value * sl.value)
    ∧ propose? ⟨.decimal tp, .decimal sl⟩ tick (.decimal ema) (.decimal atr)
      = match sideAt tick.price.value ema.value with
        | none => .ok none
        | some side => do
          let (t, l) ← targets side tick.price (.decimal profit) (.decimal loss)
          return some (← signalAt tick side t l ("ATR=" ++ atr.text ++ " EMA=" ++ ema.text))
  := by
  have horder := Value.order_of_finite "<=" (x := .decimal atr) (y := .int 0) rfl rfl hatr
    (isFinite_ofInt 0)
  rw [value_ofInt, Int.cast_zero, compare_gt_iff_gt.mpr hpos] at horder
  obtain ⟨profit, hprofit, hprofitfinite, hprofitvalue⟩ :=
    Value.times_of_representable hatr htp h.profit
  obtain ⟨loss, hloss, hlossfinite, hlossvalue⟩ := Value.times_of_representable hatr hsl h.loss
  refine ⟨profit, loss, ⟨hprofitfinite, hprofitvalue⟩, ⟨hlossfinite, hlossvalue⟩, ?_⟩
  simp only [propose?, isMissing_decimal hema, isMissing_decimal hatr, horder, hprofit, hloss,
    sideOf?_eq hprice hema, Bool.or_self, Bool.false_eq_true, if_false]
  cases sideAt tick.price.value ema.value <;> rfl

/-- Where the prices at the targets are exact too, the reward and the risk of the signal are the
distances; none is proposed where the price is the average. -/
theorem propose?_of_exact :
  (tick.price.value = ema.value →
    propose? ⟨.decimal tp, .decimal sl⟩ tick (.decimal ema) (.decimal atr) = .ok none)
  ∧ (tick.price.value ≠ ema.value →
    ∃ s, propose? ⟨.decimal tp, .decimal sl⟩ tick (.decimal ema) (.decimal atr) = .ok (some s)
      ∧ IsTrend s tick.price.value (atr.value * tp.value) (atr.value * sl.value))
  := by
  obtain ⟨profit, loss, ⟨hprofit, hprofitvalue⟩, ⟨hloss, hlossvalue⟩, hpropose⟩ :=
    propose?_eq_bind htp hsl hprice hema hatr hpos h
  rw [hpropose]
  constructor
  · intro heq
    have hside : sideAt tick.price.value ema.value = none := by
      simp [sideAt, heq]
    rw [hside]
  · intro hne
    obtain ⟨side, hside⟩ : ∃ side, sideAt tick.price.value ema.value = some side := by
      obtain hlt | hgt := hne.lt_or_gt
      · exact ⟨.short, by rw [sideAt, if_neg hlt.le.not_gt, if_pos hlt]⟩
      · exact ⟨.long, by rw [sideAt, if_pos hgt]⟩
    obtain ⟨ht, hl⟩ := h.targets hside
    rw [← hprofitvalue] at ht
    rw [← hlossvalue] at hl
    obtain ⟨t, l, htargets, htfinite, hlfinite, htvalue, hlvalue⟩ :=
      exists_targets hprice hprofit hloss ht hl
    rw [hside]
    simp only [htargets, bind, Except.bind, signalAt_eq tick side htfinite hlfinite]
    refine ⟨_, rfl, ⟨htfinite, hlfinite, ?_⟩, rfl, ?_, ?_⟩
    · rintro o ⟨⟩
    · cases side <;> simp [Signal.reward, htvalue, hprofitvalue, Side.target]
    · cases side <;> simp [Signal.risk, hlvalue, hlossvalue, Side.stop]

end TrendBuilder

/-! ### The ratio of a trend signal -/

variable {tp sl m : Decimal}

/-- A quotient of decimals that reaches a minimum of at most 28 digits is not rounded below it, if
the minimum has no digit behind the least exponent or the quotient loses none there. -/
theorem exists_quotient_of_le
    (htp : tp.isFinite = true) (hsl : sl.isFinite = true) (hslpos : 0 < sl.value)
    (hm : m.isFinite = true)
    (hdigits : Representable m.value ∨ HasDigits m.value
      ∧ ∀ r, tp.div sl = .ok r → ¬ Underflows (tp.value / sl.value) r.value)
    (hle : m.value * sl.value ≤ tp.value) (hrange : tp.div sl ≠ .error .overflow) :
  ∃ r, tp.div sl = .ok r ∧ r.less m = .ok false
  := by
  have hquotient := rounds_div htp hsl hslpos.ne'
  obtain ⟨r, hr⟩ := hquotient.exists_of_ne_overflow hrange
  obtain ⟨hresult, hround⟩ := hquotient.of_eq_ok hr
  have hle' : m.value ≤ tp.value / sl.value := (le_div_iff₀ hslpos).mpr hle
  have hreach : m.value ≤ r.value := by
    obtain hm | ⟨hm, hkeeps⟩ := hdigits
    · exact hm.le_of_roundsTo hround hle'
    · exact hround.le_of_hasDigits (hkeeps r hr) hm hle'
  use r, hr
  rw [less_of_finite hresult.isFinite hm, decide_eq_false hreach.not_gt]

/-- The range cancels out of the ratio of multiples of it. -/
theorem Figure.exists_ratio_iff
    {s : Signal} {o : Decimal} {atr : ℚ} (htp : tp.isFinite = true) (hsl : sl.isFinite = true)
    (hslpos : 0 < sl.value) (hatr : 0 < atr) (hprofit : Representable (atr * tp.value))
    (hloss : Representable (atr * sl.value)) (hs : s.IsFinite) (ho : o.isFinite = true)
    (hreward : s.reward o.value = atr * tp.value) (hrisk : s.risk o.value = atr * sl.value) :
  (∃ r, ratio.Computes s o r ∧ r.less m = .ok false)
    ↔ ∃ r, tp.div sl = .ok r ∧ r.less m = .ok false
  := by
  have hx := Signal.rounds_rewardFrom hs ho
  have hy := Signal.rounds_riskFrom hs ho
  rw [hreward] at hx
  rw [hrisk] at hy
  obtain ⟨x, hx, hxfinite, hxvalue⟩ := hx.exists_of_representable hprofit
  obtain ⟨y, hy, hyfinite, hyvalue⟩ := hy.exists_of_representable hloss
  have hypos : 0 < y.value := hyvalue ▸ mul_pos hatr hslpos
  have hquotient := rounds_div htp hsl hslpos.ne'
  have hratio := rounds_div hxfinite hyfinite hypos.ne'
  rw [hxvalue, hyvalue, mul_div_mul_left _ _ hatr.ne'] at hratio
  constructor
  · rintro ⟨r, ⟨x', y', hx', hy', -, hr⟩, hless⟩
    obtain rfl : x = x' := Except.ok.inj (hx.symm.trans hx')
    obtain rfl : y = y' := Except.ok.inj (hy.symm.trans hy')
    exact hratio.exists_not_less hquotient ⟨r, hr, hless⟩
  · intro hquotients
    obtain ⟨r, hr, hless⟩ := hquotient.exists_not_less hratio hquotients
    exact ⟨r, ⟨x, y, hx, hy, hypos, hr⟩, hless⟩

namespace TrendBuilder

/-- A trend signal with distances on its sides of the price has its targets there. -/
theorem IsTrend.brackets
    {s : Signal} {price profit loss : ℚ} (h : IsTrend s price profit loss) (hprofit : 0 < profit)
    (hloss : 0 < loss) :
  s.Brackets price
  := by
  rw [Signal.brackets_iff, h.reward, h.risk]
  exact ⟨hloss, hprofit⟩

/-- The gate for the ratio compares the quotient of the multiples with its minimum. -/
theorem IsTrend.objection?_eq_none_iff
    {s : Signal} {o : Decimal} {atr : ℚ} (h : IsTrend s o.value (atr * tp.value) (atr * sl.value))
    (htp : tp.isFinite = true) (hsl : sl.isFinite = true) (hslpos : 0 < sl.value) (hatr : 0 < atr)
    (hprofit : Representable (atr * tp.value)) (hloss : Representable (atr * sl.value))
    (ho : o.isFinite = true) {i : Inspection} (hi : i.signal = s.withOpenPrice o) :
  (Gate.rewardRisk m).objection? i = none ↔ ∃ r, tp.div sl = .ok r ∧ r.less m = .ok false
  := by
  have hsignal : i.signal = { s with openPrice := some o } := by
    rw [hi, Signal.withOpenPrice, h.openPrice]
  have hfinite : i.signal.IsFinite := by
    rw [hsignal]
    refine ⟨h.finite.takeProfit, h.finite.stopLoss, ?_⟩
    rintro p ⟨rfl⟩
    exact ho
  have hopen : i.signal.openPrice = some o := by rw [hsignal]
  have hreward : i.signal.reward o.value = atr * tp.value := by
    rw [hsignal]
    exact h.reward
  have hrisk : i.signal.risk o.value = atr * sl.value := by
    rw [hsignal]
    exact h.risk
  have hgate := Figure.objection?_eq_none_iff (q := .ratio) (m := m) hfinite hopen
  exact hgate.trans
    (Figure.exists_ratio_iff htp hsl hslpos hatr hprofit hloss hfinite ho hreward hrisk)

/-- Two is not above the quotient of three and one and a half. -/
theorem exists_standard_quotient
    (htp : tp.isFinite = true) (hsl : sl.isFinite = true) (htpvalue : tp.value = 3)
    (hslvalue : sl.value = 3 / 2) :
  ∃ r, tp.div sl = .ok r ∧ r.less (.ofInt 2) = .ok false
  := by
  have htwo : Representable (2 : ℤ) := representable_intCast (by decide)
  have hslpos : 0 < sl.value := by
    rw [hslvalue]
    norm_num
  have hquotient := rounds_div htp hsl hslpos.ne'
  have hexact : tp.value / sl.value = 2 := by
    rw [htpvalue, hslvalue]
    norm_num
  rw [hexact] at hquotient
  obtain ⟨r, hr, hfinite, hvalue⟩ := hquotient.exists_of_representable htwo
  use r, hr
  rw [less_of_finite hfinite (isFinite_ofInt 2), hvalue, value_ofInt]
  simp

/-- A signal is proposed under the indicators that go by their names. -/
theorem build_eq_propose?
    {ema atr : Value} {indicators : Fields} (hema : Value.lookup "ema" indicators = some ema)
    (hatr : Value.lookup "atr" indicators = some atr) (b : TrendBuilder) (tick : Tick) :
  b.build tick (.record indicators) = b.propose? tick ema atr
  := by
  have htruth : (Value.record indicators).truth = true := by
    cases indicators with
    | nil => cases hema
    | cons f fs => rfl
  simp only [build, htruth, hema, hatr, Bool.not_true, Bool.false_eq_true, if_false,
    Option.getD_some]

/-- No signal is proposed exactly where the range is not positive or the price is the average;
every other signal has its stop loss and its take profit on the two sides of the price that belong
to the trade.  At this price the gate for the ratio compares the quotient of the multiples with
its minimum.  So it lets the signal pass if the exact quotient reaches a minimum of at most 28
digits, unless the quotient is too large, or loses digits at the least exponent that the minimum
has; and in particular at the standard multiples and the standard minimum. -/
theorem trend_signals_have_ratio_of_multiples
    {tp sl ema atr : Decimal} (htp : tp.isFinite = true) (hsl : sl.isFinite = true)
    (htppos : 0 < tp.value) (hslpos : 0 < sl.value) (hema : ema.isFinite = true)
    (hatr : atr.isFinite = true) {tick : Tick} (hprice : tick.price.isFinite = true)
    {indicators : Fields} (hemaAt : Value.lookup "ema" indicators = some (.decimal ema))
    (hatrAt : Value.lookup "atr" indicators = some (.decimal atr))
    (hexact : IsExact tp.value sl.value tick.price.value ema.value atr.value) :
  (build ⟨.decimal tp, .decimal sl⟩ tick (.record indicators) = .ok none
    ↔ atr.value ≤ 0 ∨ tick.price.value = ema.value)
  ∧ (¬ (atr.value ≤ 0 ∨ tick.price.value = ema.value) →
    ∃ s, build ⟨.decimal tp, .decimal sl⟩ tick (.record indicators) = .ok (some s)
      ∧ s.openPrice = none ∧ s.Brackets tick.price.value
      ∧ ∀ i : Inspection, i.signal = s.withOpenPrice tick.price →
        (∀ m, (Gate.rewardRisk m).objection? i = none
          ↔ ∃ r, tp.div sl = .ok r ∧ r.less m = .ok false)
        ∧ (∀ m, m.isFinite = true → m.value * sl.value ≤ tp.value →
          tp.div sl ≠ .error .overflow →
          (Representable m.value ∨ HasDigits m.value
            ∧ ∀ r, tp.div sl = .ok r → ¬ Underflows (tp.value / sl.value) r.value) →
          (Gate.rewardRisk m).objection? i = none)
        ∧ (tp.value = 3 → sl.value = 3 / 2 → (Gate.rewardRisk (.ofInt 2)).objection? i = none))
  := by
  rw [build_eq_propose? hemaAt hatrAt]
  obtain hle | hpos := le_or_gt atr.value 0
  · rw [propose?_of_atr_le hema hatr hle]
    exact ⟨iff_of_true rfl (.inl hle), fun hsome => absurd (.inl hle) hsome⟩
  obtain ⟨hnone, hsome⟩ := propose?_of_exact htp hsl hprice hema hatr hpos hexact
  constructor
  · constructor
    · intro hbuilt
      right
      by_contra hne
      obtain ⟨s, hs, -⟩ := hsome hne
      rw [hs] at hbuilt
      cases hbuilt
    · rintro (hle | heq)
      · exact absurd hpos hle.not_gt
      · exact hnone heq
  · intro hside
    obtain ⟨s, hs, htrend⟩ := hsome fun heq => hside (.inr heq)
    refine ⟨s, hs, htrend.openPrice,
      htrend.brackets (mul_pos hpos htppos) (mul_pos hpos hslpos), fun i hi => ?_⟩
    have hgate (m : Decimal) := htrend.objection?_eq_none_iff (m := m) htp hsl hslpos hpos
      hexact.profit hexact.loss hprice hi
    refine ⟨hgate, ?_, ?_⟩
    · intro m hm hle hrange hdigits
      exact (hgate m).mpr (exists_quotient_of_le htp hsl hslpos hm hdigits hle hrange)
    · intro htpvalue hslvalue
      exact (hgate _).mpr (exists_standard_quotient htp hsl htpvalue hslvalue)

/-- A tick at a price. -/
def tickAt (price : Decimal) : Tick := ⟨"BTC", price, default, none, none, none⟩

/-- An average and a range by their names. -/
def indicatorsOf (ema atr : Decimal) : Fields := [("ema", .decimal ema), ("atr", .decimal atr)]

/-- A short trade at 100, below the average: 6 away from its target and 3 from its stop. -/
theorem trend_signals_have_ratio_of_multiples_standard :
  ∃ s, standard.build (tickAt (.ofInt 100)) (.record (indicatorsOf (.ofInt 101) (.ofInt 2)))
      = .ok (some s)
    ∧ s.Brackets 100
    ∧ (Gate.rewardRisk (.ofInt 2)).objection?
        { (default : Inspection) with signal := s.withOpenPrice (.ofInt 100) } = none
  := by
  have htp : (Decimal.ofInt 3).value = 3 := by rw [value_ofInt, Int.cast_ofNat]
  have hsl : (Decimal.finite false 15 (-1)).value = 3 / 2 := by norm_num [value_positive]
  have hprice : (tickAt (.ofInt 100)).price.value = 100 := by
    rw [tickAt, value_ofInt, Int.cast_ofNat]
  have hrepresentable {n : ℤ} {x : ℚ} (hn : |n| < tenTo precision) (hx : x = n) :
      Representable x := hx ▸ representable_intCast hn
  have hexact : IsExact (Decimal.ofInt 3).value (Decimal.finite false 15 (-1)).value
      (tickAt (.ofInt 100)).price.value (Decimal.ofInt 101).value (Decimal.ofInt 2).value := by
    rw [htp, hsl, hprice, value_ofInt, value_ofInt]
    constructor
    case profit => exact hrepresentable (n := 6) (by decide) (by norm_num)
    case loss => exact hrepresentable (n := 3) (by decide) (by norm_num)
    case long => norm_num
    case short =>
      intro _
      exact ⟨hrepresentable (n := 94) (by decide) (by norm_num),
        hrepresentable (n := 103) (by decide) (by norm_num)⟩
  have hpos : 0 < (Decimal.finite false 15 (-1)).value := by
    rw [hsl]
    norm_num
  have hemaAt : Value.lookup "ema" (indicatorsOf (.ofInt 101) (.ofInt 2))
      = some (.decimal (.ofInt 101)) := rfl
  have hatrAt : Value.lookup "atr" (indicatorsOf (.ofInt 101) (.ofInt 2))
      = some (.decimal (.ofInt 2)) := rfl
  obtain ⟨s, hs, -, hbrackets, hgate⟩ := (trend_signals_have_ratio_of_multiples rfl rfl
    (by norm_num) hpos rfl rfl rfl hemaAt hatrAt hexact).2 (by norm_num [hprice])
  exact ⟨s, hs, hprice ▸ hbrackets, (hgate _ rfl).2.2 htp hsl⟩

/-- At the price zero, everything is exact and the quotient of the multiples reaches a minimum of
at most 28 digits, and still the gate does not let the signal pass. -/
structure IsRefused (tp sl atr m : Decimal) : Prop where
  exact : IsExact tp.value sl.value (tickAt .zero).price.value (Decimal.ofInt (-1)).value atr.value
  digits : HasDigits m.value
  reached : m.value * sl.value ≤ tp.value
  refused : ∃ s, build ⟨.decimal tp, .decimal sl⟩ (tickAt .zero)
      (.record (indicatorsOf (.ofInt (-1)) atr)) = .ok (some s)
    ∧ ∀ i : Inspection, i.signal = s.withOpenPrice .zero →
      (Gate.rewardRisk m).objection? i ≠ none

/-- At the price zero, representable distances are exact prices, and the computed quotient
decides. -/
theorem isRefused_of_div
    {atr : Decimal} (htp : tp.isFinite = true) (hsl : sl.isFinite = true)
    (hslpos : 0 < sl.value) (hatr : atr.isFinite = true) (hpos : 0 < atr.value)
    (hprofit : Representable (atr.value * tp.value)) (hloss : Representable (atr.value * sl.value))
    (hdigits : HasDigits m.value) (hle : m.value * sl.value ≤ tp.value)
    (hdiv : ¬ ∃ r, tp.div sl = .ok r ∧ r.less m = .ok false) :
  IsRefused tp sl atr m
  := by
  have hprice : (tickAt .zero).price.value = 0 := value_zero
  have hexact : IsExact tp.value sl.value (tickAt .zero).price.value (Decimal.ofInt (-1)).value
      atr.value := by
    rw [hprice]
    refine ⟨hprofit, hloss, fun _ => ?_, fun _ => ?_⟩ <;> rw [zero_add, zero_sub]
    · exact ⟨hprofit, hloss.neg⟩
    · exact ⟨hprofit.neg, hloss⟩
  have hne : (tickAt .zero).price.value ≠ (Decimal.ofInt (-1)).value := by
    rw [hprice, value_ofInt]
    norm_num
  obtain ⟨s, hs, htrend⟩ := (propose?_of_exact htp hsl rfl rfl hatr hpos hexact).2 hne
  refine ⟨hexact, hdigits, hle, s, ?_, fun i hi => ?_⟩
  · rw [build_eq_propose? rfl rfl, hs]
  · rw [ne_eq, htrend.objection?_eq_none_iff htp hsl hslpos hpos hprofit hloss rfl hi]
    exact hdiv

/-- A quotient beyond the range stops the gate at the standard minimum; and one that loses its
digits at the least exponent is below every positive minimum. -/
theorem ratio_out_of_range_is_refused :
  IsRefused (.finite false 1 600000) (.finite false 1 (-600000)) (.ofInt 1) (.ofInt 2)
    ∧ IsRefused (.finite false 1 (-1000030)) (.ofInt 1) (.finite false 1 100)
      (.finite false 1 (-1000030))
  := by
  have hpower (k : ℤ) : (Decimal.finite false 1 k).value = 10 ^ k := by
    rw [value_positive, Nat.cast_one, one_mul]
  have hone : (Decimal.ofInt 1).value = 1 := by rw [value_ofInt, Int.cast_one]
  have hpos (k : ℤ) : 0 < (Decimal.finite false 1 k).value := by
    rw [hpower]
    positivity
  constructor
  · have hoverflow : (Decimal.finite false 1 600000).div (.finite false 1 (-600000))
        = .error .overflow := by
      decide +kernel
    apply isRefused_of_div rfl rfl (hpos _) rfl (hone ▸ one_pos)
    · rw [hone, hpower, one_mul]
      exact representable_zpow (by decide) (by decide)
    · rw [hone, hpower, one_mul]
      exact representable_zpow (by decide) (by decide)
    · exact ⟨2, 0, by decide, by rw [value_ofInt, zpow_zero, mul_one]⟩
    · have hsmall : (10 : ℚ) ^ (-600000 : ℤ) ≤ 1 := zpow_le_one_of_nonpos₀ (by norm_num) (by decide)
      have hlarge : (10 : ℚ) ^ (1 : ℤ) ≤ 10 ^ (600000 : ℤ) :=
        zpow_le_zpow_right₀ (by norm_num) (by decide)
      rw [value_ofInt, hpower, hpower, Int.cast_ofNat]
      calc (2 : ℚ) * 10 ^ (-600000 : ℤ) ≤ 2 * 1 := mul_le_mul_of_nonneg_left hsmall (by norm_num)
        _ ≤ 10 := by norm_num
        _ ≤ 10 ^ (600000 : ℤ) := by rwa [zpow_one] at hlarge
    · rintro ⟨r, hr, -⟩
      rw [hoverflow] at hr
      cases hr
  · have hzero : (Decimal.finite false 1 (-1000030)).div (.ofInt 1)
        = .ok (.finite false 0 (-1000026)) := by
      decide +kernel
    apply isRefused_of_div rfl rfl (hone ▸ one_pos) rfl (hpos _)
    · rw [hpower, hpower, ← zpow_add₀ (by norm_num)]
      exact representable_zpow (by decide) (by decide)
    · rw [hone, hpower, mul_one]
      exact representable_zpow (by decide) (by decide)
    · exact ⟨1, -1000030, by decide, by rw [hpower, Int.cast_one, one_mul]⟩
    · rw [hone, mul_one]
    · rintro ⟨r, hr, hless⟩
      obtain rfl : _ = r := Except.ok.inj (hzero.symm.trans hr)
      rw [less_of_finite rfl rfl, value_finite_zero, decide_eq_true (hpos _)] at hless
      cases hless

end TrendBuilder

end TradeGate
