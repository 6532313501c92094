import TradeGate.Indicator.Summation

/-!
# Smoothed averages and true ranges

Only the value at the newest bar is needed, so a smoothing is evaluated in closed form:
the mean of the first `p` values, weighted by a power of the decay, plus the weighted sum
of the values after them.  The definitions are over any `Scalar`, so that they run on
floats and are reasoned about over the rationals.
-/

namespace TradeGate

namespace Indicator

variable {α : Type} [Scalar α]

/-- The mean of a list, from its balanced sum. -/
def mean (xs : List α) : α :=
  balancedTotal xs / Scalar.whole xs.length

/-- The weights of `n` values after the seed: `a` times the powers of `1 - a`, the newest
value last and heaviest. -/
def weights (a : α) (n : Nat) : List α :=
  (List.range n).map fun i => a * Scalar.power (1 - a) (n - 1 - i)

/-- The value at the end of the smoothing of `xs` with factor `a`, seeded with the mean of
the first `p` values. -/
def smoothed (xs : List α) (p : Nat) (a : α) : α :=
  let tail := xs.drop p
  Scalar.power (1 - a) tail.length * mean (xs.take p)
    + total (List.zipWith (· * ·) (weights a tail.length) tail)

/-- The smoothing of `xs` for a period of any sign, nothing where the period is not
positive or the list is shorter. -/
def smoothed? (xs : List α) (period : Int) (a : α) : Option α :=
  if 1 ≤ period ∧ period ≤ xs.length then some (smoothed xs period.toNat a) else none

/-- The exponential average of a period at the newest value. -/
def ema? (xs : List α) (period : Int) : Option α :=
  smoothed? xs period (Scalar.whole 2 / Scalar.whole (period.toNat + 1))

/-- Wilder's average of a period at the newest value. -/
def wilder? (xs : List α) (period : Int) : Option α :=
  smoothed? xs period (1 / Scalar.whole period.toNat)

/-! ### True ranges -/

/-- Two lists combined item by item; a list of one item is repeated to the length of the
other. -/
def aligned? (f : α → α → α) (xs ys : List α) : Option (List α) :=
  if xs.length = ys.length then some (List.zipWith f xs ys)
  else
    match xs, ys with
    | [x], ys => some (ys.map (f x))
    | xs, [y] => some (xs.map fun x => f x y)
    | _, _ => none

/-- The items of `new` in the place of those of `old`; a single item fills all places. -/
def replaced? (old new : List α) : Option (List α) :=
  if old.length = new.length then some new
  else
    match new with
    | [x] => some (old.map fun _ => x)
    | _ => none

/-- The true range of every bar: of the first bar its range, of a later bar the largest
distance among its high, its low and the close before it. -/
def trueRanges? (highs lows closes : List α) : Option (List α) := do
  let ranges ← aligned? (· - ·) highs lows
  match ranges with
  | first :: next :: rest =>
    let before := closes.dropLast
    let above := (← aligned? (· - ·) highs.tail before).map Scalar.size
    let below := (← aligned? (· - ·) lows.tail before).map Scalar.size
    let gaps ← aligned? Scalar.larger above below
    let wider ← aligned? Scalar.larger (next :: rest) gaps
    (replaced? (next :: rest) wider).map (first :: ·)
  | _ => some ranges

theorem length_weights
    (a : α) (n : Nat) :
  (weights a n).length = n
  := by
  simp [weights]

omit [Scalar α] in
theorem aligned?_of_length_eq
    (f : α → α → α) {xs ys : List α} (h : xs.length = ys.length) :
  aligned? f xs ys = some (List.zipWith f xs ys)
  := by
  simp [aligned?, h]

omit [Scalar α] in
theorem replaced?_of_length_eq
    {old new : List α} (h : old.length = new.length) :
  replaced? old new = some new
  := by
  simp [replaced?, h]

end Indicator

end TradeGate
