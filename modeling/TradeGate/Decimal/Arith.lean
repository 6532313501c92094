import TradeGate.Decimal.Rounding

/-!
# Decimal arithmetic

Sum, difference, product and quotient, each the exact result brought to 28 digits by
`fit`.  The sum of two numbers that are far apart is computed from a nearer small
operand of one unit, which rounds the same way; the quotient is computed to two digits
more than needed, the last of them telling whether the division left a rest.
-/

namespace TradeGate.Decimal

/-- What an operation gives when one operand is a not-a-number, the first one
deciding. -/
def propagateNaN : Decimal → Decimal → Option (Except Trap Decimal)
  | .nan _ true _, _ => some (.error .invalidOperation)
  | _, .nan _ true _ => some (.error .invalidOperation)
  | .nan s false p, _ => some (.ok (.nan s false (p % tenTo precision)))
  | _, .nan s false p => some (.ok (.nan s false (p % tenTo precision)))
  | _, _ => none

/-- The signed integer that a sign and a coefficient stand for. -/
def signed (negative : Bool) (c : Nat) : Int :=
  if negative then -(c : Int) else c

/-- The operand with the smaller exponent, given as coefficient and exponent, moved next
to the last digit that can matter beside `large · 10 ^ top`. -/
def approach (large : Nat) (top : Int) (small : Nat) (bottom : Int) : Nat × Int :=
  let edge := top + min (-1) ((digitCount large : Int) - precision - 2)
  if leading small bottom < edge then (1, edge) else (small, bottom)

/-- The sum of `± c₁ · 10 ^ e₁` and `± c₂ · 10 ^ e₂` where `e₂ ≤ e₁` and neither is
zero. -/
def addAligned (s₁ : Bool) (c₁ : Nat) (e₁ : Int) (s₂ : Bool) (c₂ : Nat) (e₂ : Int) :
    Except Trap Decimal :=
  let (c₂', e₂') := if e₂ < e₁ then approach c₁ e₁ c₂ e₂ else (c₂, e₂)
  let total := signed s₁ (c₁ * tenTo (e₁ - e₂').toNat) + signed s₂ c₂'
  fit (decide (total < 0)) total.natAbs e₂'

/-- The sum of zero at exponent `e₀` and `± c · 10 ^ e`: the number itself, with as many
further zeros as the zero's exponent asks for and the precision allows. -/
def addZero (e₀ : Int) (s : Bool) (c : Nat) (e : Int) : Except Trap Decimal :=
  let last := max (min e₀ e) (e - precision - 1)
  fit s (c * tenTo (e - last).toNat) last

def addFinite (s₁ : Bool) (c₁ : Nat) (e₁ : Int) (s₂ : Bool) (c₂ : Nat) (e₂ : Int) :
    Except Trap Decimal :=
  if c₁ = 0 ∧ c₂ = 0 then fit (s₁ && s₂) 0 (min e₁ e₂)
  else if c₁ = 0 then addZero e₁ s₂ c₂ e₂
  else if c₂ = 0 then addZero e₂ s₁ c₁ e₁
  else if e₂ ≤ e₁ then addAligned s₁ c₁ e₁ s₂ c₂ e₂
  else addAligned s₂ c₂ e₂ s₁ c₁ e₁

/-- The sum of two decimals. -/
def add (x y : Decimal) : Except Trap Decimal :=
  match propagateNaN x y with
  | some r => r
  | none =>
    match x, y with
    | .infinity s, .infinity t => if s = t then .ok x else .error .invalidOperation
    | .infinity _, _ => .ok x
    | _, .infinity _ => .ok y
    | .finite s₁ c₁ e₁, .finite s₂ c₂ e₂ => addFinite s₁ c₁ e₁ s₂ c₂ e₂
    | _, _ => .error .invalidOperation

/-- The difference of two decimals. -/
def sub (x y : Decimal) : Except Trap Decimal :=
  match propagateNaN x y with
  | some r => r
  | none => add x y.negate

/-- The product of two decimals. -/
def mul (x y : Decimal) : Except Trap Decimal :=
  match propagateNaN x y with
  | some r => r
  | none =>
    match x, y with
    | .infinity s, .infinity t => .ok (.infinity (s != t))
    | .infinity s, .finite t c _ =>
      if c = 0 then .error .invalidOperation else .ok (.infinity (s != t))
    | .finite s c _, .infinity t =>
      if c = 0 then .error .invalidOperation else .ok (.infinity (s != t))
    | .finite s₁ c₁ e₁, .finite s₂ c₂ e₂ => fit (s₁ != s₂) (c₁ * c₂) (e₁ + e₂)
    | _, _ => .error .invalidOperation

/-- Removes zeros at the end of `c` while the exponent `e` is below `ideal`; `steps`
bounds their number. -/
def stripZeros : Nat → Nat → Int → Int → Nat × Int
  | 0, c, e, _ => (c, e)
  | steps + 1, c, e, ideal =>
    if e < ideal ∧ c % 10 = 0 then stripZeros steps (c / 10) (e + 1) ideal else (c, e)

/-- The quotient of two positive coefficients: its digits, two more than the precision,
and the exponent of the last.  A last digit that is a multiple of five is raised by one
where the division leaves a rest, so that no rest is mistaken for a half. -/
def quotientDigits (c₁ : Nat) (e₁ : Int) (c₂ : Nat) (e₂ : Int) : Nat × Int :=
  let shift : Int := (digitCount c₂ : Int) - digitCount c₁ + precision + 1
  let n := c₁ * tenTo shift.toNat
  let d := c₂ * tenTo (-shift).toNat
  let q := n / d
  if n % d = 0 then stripZeros (digitCount q) q (e₁ - e₂ - shift) (e₁ - e₂)
  else (if q % 5 = 0 then q + 1 else q, e₁ - e₂ - shift)

def divFinite (s₁ : Bool) (c₁ : Nat) (e₁ : Int) (s₂ : Bool) (c₂ : Nat) (e₂ : Int) :
    Except Trap Decimal :=
  if c₂ = 0 then
    if c₁ = 0 then .error .divisionUndefined else .error .divisionByZero
  else if c₁ = 0 then fit (s₁ != s₂) 0 (e₁ - e₂)
  else
    let (q, e) := quotientDigits c₁ e₁ c₂ e₂
    fit (s₁ != s₂) q e

/-- The quotient of two decimals. -/
def div (x y : Decimal) : Except Trap Decimal :=
  match propagateNaN x y with
  | some r => r
  | none =>
    match x, y with
    | .infinity _, .infinity _ => .error .invalidOperation
    | .infinity s, .finite t _ _ => .ok (.infinity (s != t))
    | .finite s _ _, .infinity t => .ok (.finite (s != t) 0 minLast)
    | .finite s₁ c₁ e₁, .finite s₂ c₂ e₂ => divFinite s₁ c₁ e₁ s₂ c₂ e₂
    | _, _ => .error .invalidOperation

/-- The order of two positive numbers `c₁ · 10 ^ e₁` and `c₂ · 10 ^ e₂`, decided by
their leading digits before the coefficients are brought to one exponent. -/
def compareMagnitude (c₁ : Nat) (e₁ : Int) (c₂ : Nat) (e₂ : Int) : Ordering :=
  match compare (leading c₁ e₁) (leading c₂ e₂) with
  | .eq => compare (c₁ * tenTo (e₁ - e₂).toNat) (c₂ * tenTo (e₂ - e₁).toNat)
  | o => o

def compareFinite (s₁ : Bool) (c₁ : Nat) (e₁ : Int) (s₂ : Bool) (c₂ : Nat) (e₂ : Int) :
    Ordering :=
  if c₁ = 0 then
    if c₂ = 0 then .eq else if s₂ then .gt else .lt
  else if c₂ = 0 then
    if s₁ then .lt else .gt
  else
    match s₁, s₂ with
    | false, true => .gt
    | true, false => .lt
    | false, false => compareMagnitude c₁ e₁ c₂ e₂
    | true, true => compareMagnitude c₂ e₂ c₁ e₁

/-- The order of two decimals as numbers, nothing where one is a not-a-number. -/
def order? : Decimal → Decimal → Option Ordering
  | .nan .., _ => none
  | _, .nan .. => none
  | .infinity s, .infinity t =>
    some (if s = t then .eq else if s then .lt else .gt)
  | .infinity s, .finite .. => some (if s then .lt else .gt)
  | .finite .., .infinity t => some (if t then .gt else .lt)
  | .finite s₁ c₁ e₁, .finite s₂ c₂ e₂ => some (compareFinite s₁ c₁ e₁ s₂ c₂ e₂)

/-- The order of two decimals as numbers; a not-a-number has no place in it. -/
def order (x y : Decimal) : Except Trap Ordering :=
  match order? x y with
  | some o => .ok o
  | none => .error .invalidOperation

/-- Whether two decimals are equal as numbers.  A quiet not-a-number is equal to nothing, a
signaling one cannot be compared. -/
def same (x y : Decimal) : Except Trap Bool :=
  if x.isSignaling || y.isSignaling then .error .invalidOperation
  else .ok (order? x y == some .eq)

/-- Whether `x` is less than `y`. -/
def less (x y : Decimal) : Except Trap Bool :=
  (order x y).map (· == .lt)

/-- Whether `x` is at most `y`. -/
def atMost (x y : Decimal) : Except Trap Bool :=
  (order x y).map (· != .gt)

/-- Every finite number is comparable with every finite number. -/
theorem order?_isSome
    {x y : Decimal} (hx : x.isFinite = true) (hy : y.isFinite = true) :
  (order? x y).isSome = true
  := by
  cases x <;> cases y <;> simp_all [isFinite, order?]

end TradeGate.Decimal
