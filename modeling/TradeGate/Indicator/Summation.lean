/-!
# Sums of numbers

A sum is taken from left to right, or in balance.  The balanced sum keeps the rounding
errors of a long list small: the list is halved until at most 128 numbers are left, and
these are added in eight running sums.  The definitions are over any `Scalar`, so that
they run on floats and are reasoned about over the rationals.
-/

namespace TradeGate

/-- The operations on numbers that the indicators use. -/
class Scalar (α : Type) extends Zero α, One α, Add α, Sub α, Mul α, Div α where
  /-- A whole number. -/
  whole : Nat → α
  /-- The power with a natural exponent. -/
  power : α → Nat → α
  /-- The larger of two numbers. -/
  larger : α → α → α
  /-- The size of a number without its sign. -/
  size : α → α

/-- Floats: the larger of two numbers is not a number if one of them is not. -/
instance : Scalar Float where
  zero := 0.0
  one := 1.0
  whole n := Float.ofNat n
  power x n := x.pow (Float.ofNat n)
  larger x y := if x.isNaN then x else if y.isNaN then y else if x < y then y else x
  size x := x.abs

namespace Indicator

variable {α : Type} [Scalar α]

/-- The sum of a list from left to right. -/
def total (xs : List α) : α :=
  xs.foldl (· + ·) 0

/-- Adds rows of eight numbers to eight running sums, and gives the numbers after the
rows. -/
def addRows : Nat → List α → List α → List α × List α
  | 0, sums, xs => (sums, xs)
  | rows + 1, sums, xs =>
    addRows rows (List.zipWith (· + ·) sums (xs.take 8)) (xs.drop 8)

/-- The sum of a short list in eight running sums, which are added in pairs; what does
not fill a row is added at the end. -/
def rowTotal (xs : List α) : α :=
  match addRows (xs.length / 8 - 1) (xs.take 8) (xs.drop 8) with
  | ([a, b, c, d, e, f, g, h], rest) =>
    rest.foldl (· + ·) (((a + b) + (c + d)) + ((e + f) + (g + h)))
  | _ => total xs

/-- The sum of a list in balanced halves. -/
def balancedTotal (xs : List α) : α :=
  if 128 < xs.length then
    let half := xs.length / 2 - xs.length / 2 % 8
    balancedTotal (xs.take half) + balancedTotal (xs.drop half)
  else rowTotal xs
termination_by xs.length
decreasing_by
  · simp only [List.length_take]
    omega
  · simp only [List.length_drop]
    omega

/-- A list of fewer than eight numbers is added from left to right. -/
theorem rowTotal_of_length_lt
    {xs : List α} (h : xs.length < 8) :
  rowTotal xs = total xs
  := by
  have hr : xs.length / 8 - 1 = 0 := by omega
  unfold rowTotal
  rw [hr, addRows, List.take_of_length_le (by omega)]
  split
  · next heq =>
    have := congrArg (fun p => p.1.length) heq
    simp only [List.length_cons, List.length_nil] at this
    omega
  · rfl

end Indicator

end TradeGate
