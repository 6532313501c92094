import Mathlib.Tactic.NormNum
import TradeGate.Proofs.Indicator.Summation
import TradeGate.Indicator.Smoothing

/-!
# Averages bar by bar

An average is computed in closed form from the whole history.  Over the rationals it is what one
gets bar by bar: the mean of the first values of the period, and from there on one step for each
value.  The true ranges are computed for all bars at once; bar by bar, the range of a bar is
widened to the close before it.
-/

namespace TradeGate.Indicator

/-! ### Smoothing -/

/-- The value after some steps: each moves the value towards the next item by the factor `a`. -/
def stepwise (a value : ℚ) (xs : List ℚ) : ℚ :=
  xs.foldl (fun value x => a * x + (1 - a) * value) value

/-- The smoothing of a history bar by bar: the mean of the first `p` items, and one step for each
item after them. -/
def smoothing (xs : List ℚ) (p : Nat) (a : ℚ) : ℚ :=
  stepwise a ((xs.take p).sum / p) (xs.drop p)

/-- One more item after the seed makes its own weight the oldest one. -/
theorem weights_succ
    (a : ℚ) (n : Nat) :
  weights a (n + 1) = a * (1 - a) ^ n :: weights a n
  := by
  rw [weights, List.range_succ_eq_map, List.map_cons, List.map_map, weights]
  congr 1
  apply List.map_congr_left
  intro i hi
  have hexponent : n + 1 - 1 - (i + 1) = n - 1 - i := by omega
  simp only [Function.comp_apply, Nat.succ_eq_add_one, hexponent]

/-- The closed form of some steps: the value they start at fades, and each item has its weight. -/
theorem stepwise_eq
    (a value : ℚ) (xs : List ℚ) :
  stepwise a value xs
    = (1 - a) ^ xs.length * value + (List.zipWith (· * ·) (weights a xs.length) xs).sum
  := by
  induction xs generalizing value with
  | nil => simp [stepwise]
  | cons x xs ih =>
    have hstep : stepwise a value (x :: xs) = stepwise a (a * x + (1 - a) * value) xs := rfl
    rw [hstep, ih, List.length_cons, weights_succ, List.zipWith_cons_cons, List.sum_cons]
    ring

theorem smoothed_eq_smoothing
    {xs : List ℚ} {p : Nat} (hp : p ≤ xs.length) (a : ℚ) :
  smoothed xs p a = smoothing xs p a
  := by
  have hmean : mean (xs.take p) = (xs.take p).sum / p := by
    have hlength : (xs.take p).length = p := List.length_take_of_le hp
    rw [mean, balancedTotal_eq_sum, hlength]
    rfl
  rw [smoothing, stepwise_eq, smoothed, hmean, total_eq_sum]
  rfl

/-- The closed form is the smoothing bar by bar, for every period that the history covers. -/
theorem smoothed?_eq_smoothing
    {xs : List ℚ} {period : Int} (hpos : 1 ≤ period) (hle : period ≤ xs.length) (a : ℚ) :
  smoothed? xs period a = some (smoothing xs period.toNat a)
  := by
  rw [smoothed?, if_pos ⟨hpos, hle⟩, smoothed_eq_smoothing (by omega)]

/-! ### True ranges -/

/-- A bar by its prices. -/
structure Bar where
  high : ℚ
  low : ℚ
  closing : ℚ

/-- The true range of a bar: its own range, widened to the close before it if there is one. -/
def Bar.trueRange (before : Option ℚ) (b : Bar) : ℚ :=
  match before with
  | none => b.high - b.low
  | some c => max (b.high - b.low) (max |b.high - c| |b.low - c|)

/-- The true ranges of the bars after a close, one after the other. -/
def rangesFrom (before : Option ℚ) : List Bar → List ℚ
  | [] => []
  | b :: bs => b.trueRange before :: rangesFrom (some b.closing) bs

theorem length_rangesFrom
    (before : Option ℚ) (bars : List Bar) :
  (rangesFrom before bars).length = bars.length
  := by
  induction bars generalizing before with
  | nil => rfl
  | cons b bs ih => rw [rangesFrom, List.length_cons, ih, List.length_cons]

/-- The distances to the closes before them widen the ranges of the bars after a close. -/
theorem zipWith_larger_eq_rangesFrom
    (c : ℚ) (bars : List Bar) :
  List.zipWith Scalar.larger (List.zipWith (· - ·) (bars.map Bar.high) (bars.map Bar.low))
      (List.zipWith Scalar.larger
        ((List.zipWith (· - ·) (bars.map Bar.high)
          (c :: bars.map Bar.closing).dropLast).map Scalar.size)
        ((List.zipWith (· - ·) (bars.map Bar.low)
          (c :: bars.map Bar.closing).dropLast).map Scalar.size))
    = rangesFrom (some c) bars
  := by
  induction bars generalizing c with
  | nil => rfl
  | cons b bs ih =>
    rw [rangesFrom, ← ih]
    rfl

/-- The true ranges of all bars are those of one bar after the other. -/
theorem trueRanges?_eq_rangesFrom
    (bars : List Bar) :
  trueRanges? (bars.map Bar.high) (bars.map Bar.low) (bars.map Bar.closing)
    = some (rangesFrom none bars)
  := by
  obtain _ | ⟨b, _ | ⟨next, rest⟩⟩ := bars
  · rfl
  · rfl
  · unfold trueRanges?
    simp (disch := simp) only [List.map_cons, aligned?_of_length_eq, replaced?_of_length_eq,
      List.zipWith_cons_cons, List.tail_cons, Option.bind_eq_bind, Option.bind_some,
      Option.map_some]
    have hlater := zipWith_larger_eq_rangesFrom b.closing (next :: rest)
    rw [rangesFrom, ← hlater]
    rfl

/-! ### Averages -/

/-- For every factor the closed form is the smoothing bar by bar.  So are the exponential average
of a period and, on the true ranges of the bars, Wilder's average. -/
theorem averages_are_stepwise
    {period : Int} (hpos : 1 ≤ period) :
  (∀ xs : List ℚ, period ≤ xs.length →
      (∀ a, smoothed? xs period a = some (smoothing xs period.toNat a))
        ∧ ema? xs period = some (smoothing xs period.toNat (2 / (period + 1)))
        ∧ wilder? xs period = some (smoothing xs period.toNat (1 / period)))
    ∧ ∀ bars : List Bar, period ≤ bars.length →
      (trueRanges? (bars.map Bar.high) (bars.map Bar.low) (bars.map Bar.closing)).bind
          (wilder? · period)
        = some (smoothing (rangesFrom none bars) period.toNat (1 / period))
  := by
  have hcast : ((period.toNat : Nat) : ℚ) = period := by
    exact_mod_cast Int.toNat_of_nonneg (by omega)
  have hema : (Scalar.whole 2 / Scalar.whole (period.toNat + 1) : ℚ) = 2 / (period + 1) := by
    rw [← hcast]
    exact_mod_cast rfl
  have hwilder : (1 / Scalar.whole period.toNat : ℚ) = 1 / period := by
    rw [← hcast]
    rfl
  constructor
  · intro xs hle
    refine ⟨fun a => smoothed?_eq_smoothing hpos hle a, ?_, ?_⟩
    · rw [ema?, hema, smoothed?_eq_smoothing hpos hle]
    · rw [wilder?, hwilder, smoothed?_eq_smoothing hpos hle]
  · intro bars hle
    have hranges : period ≤ (rangesFrom none bars).length := by rwa [length_rangesFrom]
    rw [trueRanges?_eq_rangesFrom, Option.bind_some, wilder?, hwilder,
      smoothed?_eq_smoothing hpos hranges]

theorem averages_are_stepwise_ofThree :
  ema? [(1 : ℚ), 2, 3, 4, 5] 3 = some 4
    ∧ (trueRanges? [(11 : ℚ), 15, 13, 14] [9, 14, 12, 12] [10, 14, 13, 13]).bind (wilder? · 3)
      = some (8 / 3)
  := by
  obtain ⟨hseries, hbars⟩ := averages_are_stepwise (by decide : (1 : Int) ≤ 3)
  have hperiod : Int.toNat 3 = 3 := rfl
  constructor
  · rw [(hseries [1, 2, 3, 4, 5] (by decide)).2.1]
    norm_num [hperiod, smoothing, stepwise]
  · refine (hbars [⟨11, 9, 10⟩, ⟨15, 14, 14⟩, ⟨13, 12, 13⟩, ⟨14, 12, 13⟩] (by decide)).trans ?_
    norm_num [hperiod, smoothing, stepwise, rangesFrom, Bar.trueRange]

end TradeGate.Indicator
