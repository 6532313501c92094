import TradeGate.Decimal.Basic

/-!
# Rounding to a number of digits

`dropDigits` divides by a power of ten and rounds to the nearest integer, a half as the
tie rule says.  `fit` brings a coefficient and an exponent into the range of results: at
most 28 digits, rounded half to even, an exponent in range, an overflow otherwise.
-/

namespace TradeGate.Decimal

/-- Where a half goes. -/
inductive Tie where
  | toEven
  | awayFromZero
deriving DecidableEq, Repr

/-- `n / 10 ^ drop` rounded to the nearest integer. -/
def dropDigits (tie : Tie) (n drop : Nat) : Nat :=
  if digitCount n < drop then 0
  else
    let unit := tenTo drop
    let quotient := n / unit
    let rest := n % unit
    if 2 * rest < unit then quotient
    else if unit < 2 * rest then quotient + 1
    else
      match tie with
      | .toEven => quotient + quotient % 2
      | .awayFromZero => quotient + 1

/-- The decimal that an exact result `± c · 10 ^ e` is rounded to. -/
def fit (negative : Bool) (c : Nat) (e : Int) : Except Trap Decimal :=
  if c = 0 then
    .ok (.finite negative 0 (max minLast (min e maxLeading)))
  else
    let full := e + digitCount c - precision
    if maxLast < full then .error .overflow
    else
      let last := max full minLast
      if e < last then
        let rounded := dropDigits .toEven c (last - e).toNat
        if digitCount rounded ≤ precision then .ok (.finite negative rounded last)
        else if maxLast < last + 1 then .error .overflow
        else .ok (.finite negative (rounded / 10) (last + 1))
      else .ok (.finite negative c e)

/-- Dropping no digit changes nothing. -/
@[simp]
theorem dropDigits_zero
    (tie : Tie) (n : Nat) :
  dropDigits tie n 0 = n
  := by
  simp [dropDigits, Nat.mod_one]

/-- The number rounded to exponent `last`, a half away from zero.  A result of more than
28 digits is refused. -/
def roundTo (last : Int) : Decimal → Except Trap Decimal
  | .nan _ true _ => .error .invalidOperation
  | .nan s false p => .ok (.nan s false (p % tenTo precision))
  | .infinity _ => .error .invalidOperation
  | .finite s 0 _ => .ok (.finite s 0 last)
  | .finite s c e =>
    if precision < leading c e - last + 1 then .error .invalidOperation
    else
      let c' :=
        if last ≤ e then c * tenTo (e - last).toNat
        else dropDigits .awayFromZero c (last - e).toNat
      if precision < digitCount c' then .error .invalidOperation
      else .ok (.finite s c' last)

end TradeGate.Decimal
