import TradeGate.Binary.Shape

/-!
# The fewest digits that read back

For a positive float `m · 2 ^ q` the reals nearer to it than to its neighbours form an
interval, which contains its ends when `m` is even.  `shortest` gives the shortest
decimal coefficient whose value lies in that interval, of several the one nearest to
the float, of two nearest ones the even one.
-/

namespace TradeGate.Binary

/-- The interval of reals that round to `m · 2 ^ q`, scaled: the numbers are
`low / scale`, `mid / scale` and `high / scale`. -/
structure Interval where
  low : Nat
  mid : Nat
  high : Nat
  scale : Nat
  /-- Whether the ends belong to the interval. -/
  closed : Bool

/-- The interval of `m · 2 ^ q`.  Below a power of two the neighbour is half as far. -/
def intervalOf (m : Nat) (q : Int) : Interval :=
  let up := twoTo q.toNat
  let scale := 4 * twoTo (-q).toNat
  let gap := if m = twoTo 52 ∧ minExponent < q then 1 else 2
  ⟨(4 * m - gap) * up, 4 * m * up, (4 * m + 2) * up, scale, m % 2 == 0⟩

/-- Whether `c · 10 ^ k` lies in the interval. -/
def Interval.holds (i : Interval) (c : Nat) (k : Int) : Bool :=
  let n := c * tenTo k.toNat * i.scale
  let d := tenTo (-k).toNat
  if i.closed then decide (i.low * d ≤ n ∧ n ≤ i.high * d)
  else decide (i.low * d < n ∧ n < i.high * d)

/-- The two neighbours of the middle among the multiples of `10 ^ k`, and whether the
upper one is nearer. -/
def Interval.neighbours (i : Interval) (k : Int) : Nat × Nat × Bool :=
  let n := i.mid * tenTo (-k).toNat
  let d := i.scale * tenTo k.toNat
  let c := n / d
  let rest := 2 * (n % d)
  (c, c + 1, decide (d < rest ∨ (rest = d ∧ c % 2 = 1)))

/-- The coefficient with the exponent `k` that is chosen if one lies in the interval. -/
def Interval.hit? (i : Interval) (k : Int) : Option Nat :=
  let (below, above, upper) := i.neighbours k
  let (first, second) := if upper then (above, below) else (below, above)
  if i.holds first k && first != 0 then some first
  else if i.holds second k then some second
  else none

/-- The first hit among the exponents `k, k - 1, …`; `steps` bounds their number. -/
def Interval.search (i : Interval) : Nat → Int → Nat × Int
  | 0, k => ((i.neighbours k).1, k)
  | steps + 1, k =>
    match i.hit? k with
    | some c => (c, k)
    | none => i.search steps (k - 1)

/-- The exponent of the leading digit of `n / d`, for positive numbers. -/
def leadingOfRatio (n d : Nat) : Int :=
  if d ≤ n then (Decimal.digitCount (n / d) : Int) - 1
  else
    let k := Decimal.digitCount (d / n)
    if d ≤ n * tenTo (k - 1) then -((k : Int) - 1) else -k

/-- The shortest coefficient and exponent of ten that read back as `m · 2 ^ q`, for a
positive `m`. -/
def shortest (m : Nat) (q : Int) : Nat × Int :=
  let i := intervalOf m q
  i.search 20 (leadingOfRatio i.mid i.scale)

end TradeGate.Binary
