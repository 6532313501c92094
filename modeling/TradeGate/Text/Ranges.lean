/-!
# Tables of ranges

A class of characters is given by the ranges of its code points, in increasing order and
with both ends.  A code point is looked up by halving the table.
-/

namespace TradeGate.Text

/-- The first index at or after `low`, below `high`, whose range ends at or above `n`,
found by halving; the span `fuel` bounds the number of steps. -/
def firstRangeFrom (ranges : Array (Nat × Nat)) (n : Nat) : Nat → Nat → Nat → Nat
  | 0, low, _ => low
  | fuel + 1, low, high =>
    if high ≤ low then low
    else
      let middle := (low + high) / 2
      match ranges[middle]? with
      | some (_, last) =>
        if last < n then firstRangeFrom ranges n fuel (middle + 1) high
        else firstRangeFrom ranges n fuel low middle
      | none => low

/-- Whether a code point lies in one of the ranges of an increasing table. -/
def inRanges (ranges : Array (Nat × Nat)) (n : Nat) : Bool :=
  match ranges[firstRangeFrom ranges n ranges.size 0 ranges.size]? with
  | some (first, last) => first ≤ n && n ≤ last
  | none => false

end TradeGate.Text
