import Mathlib.Algebra.BigOperators.Ring.List
import Mathlib.Algebra.Order.Field.Basic
import Mathlib.Algebra.Order.Ring.Abs
import Mathlib.Data.List.MinMax
import Mathlib.Order.Bounds.Basic
import Mathlib.Tactic.Linarith
import TradeGate.Proofs.Indicator.Stepwise

/-!
# Indicators within their data

An average over the rationals is a weighted sum of its data, whose weights are not negative and
sum to one.  So it lies between the smallest and the largest item, and it moves and grows with
them.  The true range of a bar is the length of the smallest interval that holds the bar and the
close before it.
-/

namespace TradeGate.Indicator

/-! ### Weighted sums -/

/-- The sum of some numbers, each taken by its weight. -/
def weighted (ws xs : List ℚ) : ℚ :=
  (List.zipWith (· * ·) ws xs).sum

/-- Weights that share out a whole: none is negative, and they sum to one. -/
structure ShareWhole (ws : List ℚ) : Prop where
  nonneg : ∀ w ∈ ws, 0 ≤ w
  sum_eq_one : ws.sum = 1

/-- A number between the smallest and the largest of some numbers. -/
def Within (xs : List ℚ) (y : ℚ) : Prop :=
  xs.minimum ≤ y ∧ y ≤ xs.maximum

theorem weighted_append
    {ws xs : List ℚ} (h : ws.length = xs.length) (vs ys : List ℚ) :
  weighted (ws ++ vs) (xs ++ ys) = weighted ws xs + weighted vs ys
  := by
  rw [weighted, List.zipWith_append h, List.sum_append]
  rfl

theorem weighted_replicate
    (w : ℚ) (xs : List ℚ) :
  weighted (List.replicate xs.length w) xs = w * xs.sum
  := by
  induction xs with
  | nil => simp [weighted]
  | cons x xs ih =>
    rw [List.length_cons, List.replicate_succ, weighted, List.zipWith_cons_cons, List.sum_cons,
      List.sum_cons, mul_add, ← ih]
    rfl

theorem weighted_map_mul
    (c : ℚ) (ws xs : List ℚ) :
  weighted ws (xs.map (c * ·)) = c * weighted ws xs
  := by
  induction ws generalizing xs with
  | nil => simp [weighted]
  | cons w ws ih =>
    obtain _ | ⟨x, xs⟩ := xs
    · simp [weighted]
    · have hrest := ih xs
      simp only [weighted, List.map_cons, List.zipWith_cons_cons, List.sum_cons] at hrest ⊢
      rw [hrest]
      ring

/-- A weighted sum is not below what its weights make of a lower bound. -/
theorem mul_sum_le_weighted
    {ws xs : List ℚ} (hlength : ws.length = xs.length) (hws : ∀ w ∈ ws, 0 ≤ w) {low : ℚ}
    (hlow : ∀ x ∈ xs, low ≤ x) :
  low * ws.sum ≤ weighted ws xs
  := by
  induction ws generalizing xs with
  | nil => simp [weighted]
  | cons w ws ih =>
    obtain _ | ⟨x, xs⟩ := xs
    · cases hlength
    · obtain ⟨hw, hws⟩ := List.forall_mem_cons.mp hws
      obtain ⟨hx, hlow⟩ := List.forall_mem_cons.mp hlow
      have hrest := ih (Nat.succ.inj hlength) hws hlow
      have hfirst : low * w ≤ w * x := by
        rw [mul_comm low w]
        apply mul_le_mul_of_nonneg_left hx hw
      calc low * (w :: ws).sum = low * w + low * ws.sum := by rw [List.sum_cons, mul_add]
        _ ≤ w * x + weighted ws xs := add_le_add hfirst hrest
        _ = weighted (w :: ws) (x :: xs) := by
          rw [weighted, weighted, List.zipWith_cons_cons, List.sum_cons]

namespace ShareWhole

variable {ws xs : List ℚ}

theorem le_weighted
    (h : ShareWhole ws) (hlength : ws.length = xs.length) {low : ℚ} (hlow : ∀ x ∈ xs, low ≤ x) :
  low ≤ weighted ws xs
  := by
  have hle := mul_sum_le_weighted hlength h.nonneg hlow
  rwa [h.sum_eq_one, mul_one] at hle

theorem weighted_le
    (h : ShareWhole ws) (hlength : ws.length = xs.length) {high : ℚ}
    (hhigh : ∀ x ∈ xs, x ≤ high) :
  weighted ws xs ≤ high
  := by
  have hlow : ∀ x ∈ xs.map (-1 * ·), -high ≤ x := by
    intro y hy
    obtain ⟨x, hx, rfl⟩ := List.mem_map.mp hy
    linarith [hhigh x hx]
  have hle := h.le_weighted (by rw [hlength, List.length_map]) hlow
  rw [weighted_map_mul] at hle
  linarith

/-- Weights that share out a whole give a number between the smallest and the largest one. -/
theorem within
    (h : ShareWhole ws) (hlength : ws.length = xs.length) :
  Within xs (weighted ws xs)
  := by
  have hne : xs ≠ [] := by
    rintro rfl
    have hzero : ws.sum = 0 := by rw [List.length_eq_zero_iff.mp hlength, List.sum_nil]
    apply zero_ne_one (hzero.symm.trans h.sum_eq_one)
  constructor
  · rw [← List.coe_minimum_of_length_pos (List.length_pos_iff.mpr hne), WithTop.coe_le_coe]
    apply h.le_weighted hlength
    intro x hx
    apply List.minimum_of_length_pos_le_of_mem hx _
  · rw [← List.coe_maximum_of_length_pos (List.length_pos_iff.mpr hne), WithBot.coe_le_coe]
    apply h.weighted_le hlength
    intro x hx
    apply List.le_maximum_of_length_pos_of_mem hx _

end ShareWhole

/-! ### The weights of a smoothing -/

/-- The weights of `n` items in a smoothing: the first `p` items share the weight of the seed
equally. -/
def itemWeights (a : ℚ) (p n : Nat) : List ℚ :=
  List.replicate p ((1 - a) ^ (n - p) / p) ++ weights a (n - p)

theorem length_itemWeights
    (a : ℚ) {p n : Nat} (hp : p ≤ n) :
  (itemWeights a p n).length = n
  := by
  rw [itemWeights, List.length_append, List.length_replicate, length_weights]
  omega

/-- What the items after the seed weigh is missing at the seed. -/
theorem sum_weights
    (a : ℚ) (n : Nat) :
  (weights a n).sum = 1 - (1 - a) ^ n
  := by
  induction n with
  | zero => simp [weights]
  | succ n ih =>
    rw [weights_succ, List.sum_cons, ih]
    ring

theorem shareWhole_itemWeights
    {a : ℚ} (ha : 0 ≤ a) (ha' : a ≤ 1) {p : Nat} (hp : 1 ≤ p) (n : Nat) :
  ShareWhole (itemWeights a p n)
  where
  nonneg w hw := by
    have hdecay : 0 ≤ 1 - a := by linarith
    obtain hseed | htail := List.mem_append.mp hw
    · rw [List.eq_of_mem_replicate hseed]
      apply div_nonneg (pow_nonneg hdecay _) (Nat.cast_nonneg _)
    · obtain ⟨i, -, rfl⟩ := List.mem_map.mp htail
      apply mul_nonneg ha (pow_nonneg hdecay _)
  sum_eq_one := by
    have hne : (p : ℚ) ≠ 0 := by exact_mod_cast (by omega : p ≠ 0)
    rw [itemWeights, List.sum_append, List.sum_replicate, sum_weights, nsmul_eq_mul,
      mul_div_cancel₀ _ hne]
    ring

/-- A smoothing is the weighted sum of its items. -/
theorem smoothing_eq_weighted
    {xs : List ℚ} {p : Nat} (hp : p ≤ xs.length) (a : ℚ) :
  smoothing xs p a = weighted (itemWeights a p xs.length) xs
  := by
  have hlength : (xs.take p).length = p := List.length_take_of_le hp
  have hseed := weighted_replicate ((1 - a) ^ (xs.length - p) / p) (xs.take p)
  rw [hlength] at hseed
  calc smoothing xs p a
      = (1 - a) ^ (xs.length - p) * ((xs.take p).sum / p)
          + weighted (weights a (xs.length - p)) (xs.drop p) := by
        rw [smoothing, stepwise_eq, List.length_drop, weighted]
    _ = weighted (List.replicate p ((1 - a) ^ (xs.length - p) / p)) (xs.take p)
          + weighted (weights a (xs.length - p)) (xs.drop p) := by rw [hseed]; ring
    _ = weighted (itemWeights a p xs.length) (xs.take p ++ xs.drop p) := by
        rw [itemWeights, weighted_append (List.length_replicate.trans hlength.symm)]
    _ = weighted (itemWeights a p xs.length) xs := by rw [List.take_append_drop]

/-! ### True ranges -/

/-- The lengths of the intervals that hold a bar and a close. -/
def Bar.spans (c : ℚ) (b : Bar) : Set ℚ :=
  {length | ∃ bottom top, length = top - bottom ∧ c ∈ Set.Icc bottom top
    ∧ Set.Icc b.low b.high ⊆ Set.Icc bottom top}

/-- The true range of a bar after a close is the length of the smallest interval that holds both. -/
theorem Bar.isLeast_trueRange
    {b : Bar} (hb : b.low ≤ b.high) (c : ℚ) :
  IsLeast (b.spans c) (b.trueRange (some c))
  := by
  have heq : b.trueRange (some c) = max b.high c - min b.low c := by
    -- The three distances are compared case by case, by the place of the close.
    rw [Bar.trueRange]
    grind
  constructor
  · refine ⟨min b.low c, max b.high c, heq, ⟨min_le_right _ _, le_max_right _ _⟩, ?_⟩
    apply Set.Icc_subset_Icc (min_le_left _ _) (le_max_left _ _)
  · rintro length ⟨bottom, top, rfl, ⟨hbottom, htop⟩, hbar⟩
    obtain ⟨hlow, hhigh⟩ := (Set.Icc_subset_Icc_iff hb).mp hbar
    rw [heq]
    apply sub_le_sub (max_le hhigh htop) (le_min hlow hbottom)

theorem Bar.trueRange_nonneg
    {b : Bar} (hb : b.low ≤ b.high) (before : Option ℚ) :
  0 ≤ b.trueRange before
  := by
  have hrange : 0 ≤ b.high - b.low := sub_nonneg.mpr hb
  cases before with
  | none => exact hrange
  | some c => exact hrange.trans (le_max_left _ _)

/-- The range of a later bar is its true range after the close of the bar before it. -/
theorem getElem?_rangesFrom
    {bars : List Bar} {before : Option ℚ} {i : Nat} {b next : Bar} (hb : bars[i]? = some b)
    (hnext : bars[i + 1]? = some next) :
  (rangesFrom before bars)[i + 1]? = some (next.trueRange (some b.closing))
  := by
  induction bars generalizing before i with
  | nil => cases hb
  | cons first rest ih =>
    rw [rangesFrom, List.getElem?_cons_succ]
    rw [List.getElem?_cons_succ] at hnext
    cases i with
    | zero =>
      cases hb
      obtain _ | ⟨second, rest⟩ := rest
      · cases hnext
      · cases hnext
        rfl
    | succ i =>
      rw [List.getElem?_cons_succ] at hb
      apply ih hb hnext

theorem rangesFrom_nonneg
    {bars : List Bar} (hbars : ∀ b ∈ bars, b.low ≤ b.high) (before : Option ℚ) :
  ∀ r ∈ rangesFrom before bars, 0 ≤ r
  := by
  induction bars generalizing before with
  | nil => nofun
  | cons b rest ih =>
    obtain ⟨hb, hrest⟩ := List.forall_mem_cons.mp hbars
    rw [rangesFrom, List.forall_mem_cons]
    exact ⟨Bar.trueRange_nonneg hb before, ih hrest _⟩

/-! ### Moved and scaled prices -/

/-- The bar with all of its prices mapped. -/
def Bar.map (f : ℚ → ℚ) (b : Bar) : Bar :=
  ⟨f b.high, f b.low, f b.closing⟩

/-- A map of prices that scales all distances scales all ranges. -/
theorem rangesFrom_map
    {f : ℚ → ℚ} {c : ℚ} (hc : 0 ≤ c) (hf : ∀ x y, f x - f y = c * (x - y)) (before : Option ℚ)
    (bars : List Bar) :
  rangesFrom (before.map f) (bars.map (Bar.map f)) = (rangesFrom before bars).map (c * ·)
  := by
  have hrange (before : Option ℚ) (b : Bar) :
      (b.map f).trueRange (before.map f) = c * b.trueRange before := by
    cases before with
    | none => exact hf b.high b.low
    | some x =>
      simp only [Option.map_some, Bar.trueRange, Bar.map, hf, abs_mul, abs_of_nonneg hc,
        mul_max_of_nonneg _ _ hc]
  induction bars generalizing before with
  | nil => rfl
  | cons b rest ih =>
    rw [List.map_cons, rangesFrom, rangesFrom, List.map_cons, hrange, ← ih]
    rfl

/-! ### Averages -/

/-- The average true range of some bars. -/
def averageRange? (bars : List Bar) (period : Int) : Option ℚ :=
  (trueRanges? (bars.map Bar.high) (bars.map Bar.low) (bars.map Bar.closing)).bind
    (wilder? · period)

section Period

variable {period : Int}

/-- A smoothing is the weighted sum of its items, for every period that they cover. -/
theorem smoothed?_eq_weighted
    (hpos : 1 ≤ period) {xs : List ℚ} (hle : period ≤ xs.length) (a : ℚ) :
  smoothed? xs period a = some (weighted (itemWeights a period.toNat xs.length) xs)
  := by
  rw [smoothed?_eq_smoothing hpos hle, smoothing_eq_weighted (by omega)]

/-- The weights of `n` items in the exponential average of a period. -/
def emaWeights (period : Int) (n : Nat) : List ℚ :=
  itemWeights (2 / (period + 1)) period.toNat n

/-- The weights of `n` items in Wilder's average of a period. -/
def wilderWeights (period : Int) (n : Nat) : List ℚ :=
  itemWeights (1 / period) period.toNat n

theorem shareWhole_emaWeights
    (hpos : 1 ≤ period) (n : Nat) :
  ShareWhole (emaWeights period n)
  := by
  have hcast : (1 : ℚ) ≤ period := by exact_mod_cast hpos
  apply shareWhole_itemWeights _ _ (by omega)
  · apply div_nonneg (by norm_num) (by linarith)
  · rw [div_le_one (by linarith)]
    linarith

theorem shareWhole_wilderWeights
    (hpos : 1 ≤ period) (n : Nat) :
  ShareWhole (wilderWeights period n)
  := by
  have hcast : (1 : ℚ) ≤ period := by exact_mod_cast hpos
  apply shareWhole_itemWeights _ _ (by omega)
  · apply div_nonneg (by norm_num) (by linarith)
  · rw [div_le_one (by linarith)]
    exact hcast

theorem cast_toNat
    (hpos : 1 ≤ period) :
  ((period.toNat : Nat) : ℚ) = period
  := by
  exact_mod_cast Int.toNat_of_nonneg (by omega)

theorem ema?_eq_weighted
    (hpos : 1 ≤ period) {xs : List ℚ} (hle : period ≤ xs.length) :
  ema? xs period = some (weighted (emaWeights period xs.length) xs)
  := by
  have hfactor : (Scalar.whole 2 / Scalar.whole (period.toNat + 1) : ℚ) = 2 / (period + 1) := by
    rw [← cast_toNat hpos]
    exact_mod_cast rfl
  rw [ema?, hfactor, smoothed?_eq_weighted hpos hle]
  rfl

theorem wilder?_eq_weighted
    (hpos : 1 ≤ period) {xs : List ℚ} (hle : period ≤ xs.length) :
  wilder? xs period = some (weighted (wilderWeights period xs.length) xs)
  := by
  have hfactor : (1 / Scalar.whole period.toNat : ℚ) = 1 / period := by
    rw [← cast_toNat hpos]
    rfl
  rw [wilder?, hfactor, smoothed?_eq_weighted hpos hle]
  rfl

/-- The average true range is the weighted sum of the true ranges. -/
theorem averageRange?_eq_weighted
    (hpos : 1 ≤ period) {bars : List Bar} (hle : period ≤ bars.length) :
  averageRange? bars period
    = some (weighted (wilderWeights period bars.length) (rangesFrom none bars))
  := by
  have hlength := length_rangesFrom none bars
  rw [averageRange?, trueRanges?_eq_rangesFrom, Option.bind_some,
    wilder?_eq_weighted hpos (by rwa [hlength]), hlength]

/-- A map of prices that scales all distances scales the average true range. -/
theorem averageRange?_map
    (hpos : 1 ≤ period) {bars : List Bar} (hle : period ≤ bars.length) {f : ℚ → ℚ} {c : ℚ}
    (hc : 0 ≤ c) (hf : ∀ x y, f x - f y = c * (x - y)) :
  averageRange? (bars.map (Bar.map f)) period = (averageRange? bars period).map (c * ·)
  := by
  have hranges := rangesFrom_map hc hf none bars
  rw [Option.map_none] at hranges
  rw [averageRange?_eq_weighted hpos hle,
    averageRange?_eq_weighted hpos (by rwa [List.length_map]), hranges, weighted_map_mul,
    List.length_map, Option.map_some]

end Period

/-- The exponential average is a weighted sum of its values, with weights that share out a whole,
and so lies between the smallest and the largest of them.  For bars that are not upside down, the
true range of the first one is its own range and that of a later one the length of the smallest
interval that holds it and the close before it; the average true range is a weighted sum of them
in the same way, lies between the smallest and the largest one, is not negative, stays when all
prices are moved alike, and grows with them when they are scaled. -/
theorem indicators_stay_within_data
    {period : Int} (hpos : 1 ≤ period) :
  (∀ xs : List ℚ, period ≤ xs.length →
      ShareWhole (emaWeights period xs.length)
        ∧ ∃ y, ema? xs period = some y ∧ y = weighted (emaWeights period xs.length) xs
          ∧ Within xs y)
    ∧ ∀ bars : List Bar, (∀ b ∈ bars, b.low ≤ b.high) → period ≤ bars.length →
      ∃ ranges,
        trueRanges? (bars.map Bar.high) (bars.map Bar.low) (bars.map Bar.closing) = some ranges
        ∧ ranges.length = bars.length
        ∧ ranges.head? = bars.head?.map (fun b => b.high - b.low)
        ∧ (∀ (i : Nat) (b next : Bar), bars[i]? = some b → bars[i + 1]? = some next →
          ∃ r, ranges[i + 1]? = some r ∧ IsLeast (next.spans b.closing) r)
        ∧ ShareWhole (wilderWeights period bars.length)
        ∧ ∃ y, averageRange? bars period = some y
          ∧ y = weighted (wilderWeights period bars.length) ranges
          ∧ Within ranges y ∧ 0 ≤ y
          ∧ (∀ d, averageRange? (bars.map (Bar.map (· + d))) period = some y)
          ∧ ∀ c, 0 ≤ c → averageRange? (bars.map (Bar.map (c * ·))) period = some (c * y)
  := by
  constructor
  · intro xs hle
    have hshare := shareWhole_emaWeights hpos xs.length
    refine ⟨hshare, _, ema?_eq_weighted hpos hle, rfl, ?_⟩
    apply hshare.within (length_itemWeights _ (by omega))
  · intro bars hbars hle
    have hshare := shareWhole_wilderWeights hpos bars.length
    have haverage := averageRange?_eq_weighted hpos hle
    have hlength : (wilderWeights period bars.length).length = (rangesFrom none bars).length := by
      rw [length_rangesFrom]
      apply length_itemWeights _ (by omega)
    refine ⟨rangesFrom none bars, trueRanges?_eq_rangesFrom bars, length_rangesFrom none bars, ?_,
      ?_, hshare, _, haverage, rfl, hshare.within hlength, ?_, ?_, ?_⟩
    · cases bars <;> rfl
    · intro i b next hb hnext
      use next.trueRange (some b.closing), getElem?_rangesFrom hb hnext
      apply Bar.isLeast_trueRange (hbars next (List.mem_of_getElem? hnext)) b.closing
    · apply hshare.le_weighted hlength (rangesFrom_nonneg hbars none)
    · intro d
      rw [averageRange?_map hpos hle zero_le_one (fun x y => by ring), haverage]
      simp only [Option.map_some, one_mul]
    · intro c hc
      rw [averageRange?_map hpos hle hc (fun x y => by ring), haverage]
      rfl

/-- Bars of which the second one opens a gap above the close before it. -/
def gappedBars : List Bar :=
  [⟨11, 9, 10⟩, ⟨15, 14, 14⟩, ⟨13, 12, 13⟩, ⟨14, 12, 13⟩]

theorem indicators_stay_within_gappedBars :
  (1 : Int) ≤ 3 ∧ (∀ b ∈ gappedBars, b.low ≤ b.high)
    ∧ (∃ y, ema? (gappedBars.map Bar.closing) 3 = some y ∧ Within (gappedBars.map Bar.closing) y)
    ∧ ∃ y, averageRange? gappedBars 3 = some y ∧ Within [2, 5, 2, 2] y ∧ 0 ≤ y
      ∧ averageRange? (gappedBars.map (Bar.map (2 * ·))) 3 = some (2 * y)
  := by
  have hpos : (1 : Int) ≤ 3 := by decide
  have hbars : ∀ b ∈ gappedBars, b.low ≤ b.high := by norm_num [gappedBars]
  obtain ⟨hseries, hranges⟩ := indicators_stay_within_data hpos
  obtain ⟨-, y, hy, -, hwithin⟩ := hseries (gappedBars.map Bar.closing) (by decide)
  obtain ⟨ranges, htrue, -, -, -, -, z, hz, -, hz', hnonneg, -, hscaled⟩ :=
    hranges gappedBars hbars (by decide)
  have heq : ranges = [2, 5, 2, 2] := by
    apply Option.some.inj
    rw [← htrue, trueRanges?_eq_rangesFrom]
    norm_num [gappedBars, rangesFrom, Bar.trueRange]
  rw [heq] at hz'
  exact ⟨hpos, hbars, ⟨y, hy, hwithin⟩, z, hz, hz', hnonneg, hscaled 2 zero_le_two⟩

end TradeGate.Indicator
