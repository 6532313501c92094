import Mathlib.Algebra.BigOperators.Group.List.Basic
import Mathlib.Algebra.Order.Field.Rat
import Mathlib.Tactic.Ring
import TradeGate.Indicator.Summation

/-!
# Sums over the rationals

Over the rationals nothing is rounded, so a balanced sum in eight running sums is the sum of the
list.
-/

namespace TradeGate

/-- Rational numbers, computed exactly. -/
instance : Scalar ℚ where
  whole n := n
  power x n := x ^ n
  larger := max
  size := abs

namespace Indicator

/-- What is added from left to right to a number is added to it as a sum. -/
theorem foldl_add
    (xs : List ℚ) (x : ℚ) :
  xs.foldl (· + ·) x = x + xs.sum
  := by
  induction xs generalizing x with
  | nil => rw [List.foldl_nil, List.sum_nil, add_zero]
  | cons y ys ih => rw [List.foldl_cons, ih, List.sum_cons, add_assoc]

theorem total_eq_sum
    (xs : List ℚ) :
  total xs = xs.sum
  := (foldl_add xs 0).trans (zero_add _)

/-- Rows that are added to the running sums are no longer behind them. -/
theorem sum_addRows
    {rows : Nat} {sums xs : List ℚ} (hsums : sums.length = 8) (hrows : 8 * rows ≤ xs.length) :
  (addRows rows sums xs).1.length = 8
    ∧ (addRows rows sums xs).1.sum + (addRows rows sums xs).2.sum = sums.sum + xs.sum
  := by
  induction rows generalizing sums xs with
  | zero => exact ⟨hsums, rfl⟩
  | succ rows ih =>
    have hrow : (xs.take 8).length = 8 := by
      rw [List.length_take]
      omega
    have hlength : (List.zipWith (· + ·) sums (xs.take 8)).length = 8 := by
      rw [List.length_zipWith, hsums, hrow, min_self]
    have hrest : 8 * rows ≤ (xs.drop 8).length := by
      rw [List.length_drop]
      omega
    obtain ⟨hlength', hsum⟩ := ih hlength hrest
    use hlength'
    have hadded : (List.zipWith (· + ·) sums (xs.take 8)).sum = sums.sum + (xs.take 8).sum :=
      (List.sum_add_sum_eq_sum_zipWith_of_length_eq _ _ (hsums.trans hrow.symm)).symm
    rw [addRows, hsum, hadded, add_assoc, List.sum_take_add_sum_drop]

/-- A sum in eight running sums is the sum of the list. -/
theorem rowTotal_eq_sum
    (xs : List ℚ) :
  rowTotal xs = xs.sum
  := by
  obtain hshort | hlong := lt_or_ge xs.length 8
  · rw [rowTotal_of_length_lt hshort, total_eq_sum]
  have hrow : (xs.take 8).length = 8 := by
    rw [List.length_take]
    omega
  have hrest : 8 * (xs.length / 8 - 1) ≤ (xs.drop 8).length := by
    rw [List.length_drop]
    omega
  obtain ⟨-, hsum⟩ := sum_addRows hrow hrest
  rw [List.sum_take_add_sum_drop] at hsum
  unfold rowTotal
  split
  · next hrows =>
    rw [hrows] at hsum
    rw [foldl_add, ← hsum]
    simp only [List.sum_cons, List.sum_nil]
    ring
  · exact total_eq_sum xs

/-- So is a balanced sum. -/
theorem balancedTotal_eq_sum
    (xs : List ℚ) :
  balancedTotal xs = xs.sum
  := by
  fun_induction balancedTotal xs with
  | case1 xs hlong half ihtake ihdrop => rw [ihtake, ihdrop, List.sum_take_add_sum_drop]
  | case2 xs hshort => exact rowTotal_eq_sum xs

end Indicator

end TradeGate
