import TradeGate.Power

/-!
# Decimal numbers

A decimal is a coefficient times a power of ten with a sign, an infinity, or a
not-a-number.  The coefficient and the exponent are kept as they were written, so 1.5
and 1.50 are different decimals of one value.  An operation that has no decimal result
ends in a `Trap`.
-/

namespace TradeGate

/-- A decimal number.  `finite negative coefficient exponent` stands for
`± coefficient · 10 ^ exponent`. -/
inductive Decimal where
  | finite (negative : Bool) (coefficient : Nat) (exponent : Int)
  | infinity (negative : Bool)
  | nan (negative : Bool) (signaling : Bool) (payload : Nat)
deriving DecidableEq, Repr, Inhabited

namespace Decimal

/-- The conditions that stop a decimal operation. -/
inductive Trap where
  /-- The operation has no sensible result, or its result has too many digits. -/
  | invalidOperation
  /-- Zero was divided by zero. -/
  | divisionUndefined
  /-- A number other than zero was divided by zero. -/
  | divisionByZero
  /-- The result is too large. -/
  | overflow
  /-- The text does not denote a decimal. -/
  | conversionSyntax
deriving DecidableEq, Repr

/-- The name of the condition. -/
def Trap.name : Trap → String
  | .invalidOperation => "InvalidOperation"
  | .divisionUndefined => "DivisionUndefined"
  | .divisionByZero => "DivisionByZero"
  | .overflow => "Overflow"
  | .conversionSyntax => "ConversionSyntax"

/-- The text that reports the condition. -/
def Trap.message (t : Trap) : String :=
  "[<class 'decimal." ++ t.name ++ "'>]"

/-- The number of digits of a result. -/
def precision : Nat := 28

/-- The largest exponent that the leading digit of a result may have. -/
def maxLeading : Int := 999999

/-- The smallest exponent that the last digit of a result may have. -/
def minLast : Int := -1000026

/-- The largest exponent that the last digit of a full coefficient may have. -/
def maxLast : Int := 999972

/-- The number of decimal digits of a natural number; zero has one. -/
def digitCount (n : Nat) : Nat :=
  if n < 10 then 1 else digitCount (n / 10) + 1

theorem digitCount_pos
    (n : Nat) :
  0 < digitCount n
  := by
  unfold digitCount
  split <;> omega

/-- The whole number `n`. -/
def ofInt (n : Int) : Decimal :=
  .finite (decide (n < 0)) n.natAbs 0

/-- The decimal zero with exponent zero. -/
def zero : Decimal := .finite false 0 0

/-- The quiet not-a-number without a payload. -/
def quietNaN : Decimal := .nan false false 0

def isFinite : Decimal → Bool
  | .finite .. => true
  | _ => false

def isNaN : Decimal → Bool
  | .nan .. => true
  | _ => false

/-- Whether every use of the decimal as a number is trapped. -/
def isSignaling : Decimal → Bool
  | .nan _ signaling _ => signaling
  | _ => false

/-- Whether the number is a zero of either sign. -/
def isZero : Decimal → Bool
  | .finite _ 0 _ => true
  | _ => false

/-- The exponent of the leading digit of `c · 10 ^ e`. -/
def leading (c : Nat) (e : Int) : Int :=
  e + digitCount c - 1

/-- The number with the other sign. -/
def negate : Decimal → Decimal
  | .finite s c e => .finite (!s) c e
  | .infinity s => .infinity (!s)
  | .nan s g p => .nan (!s) g p

@[simp]
theorem negate_negate
    (x : Decimal) :
  x.negate.negate = x
  := by
  cases x <;> simp [negate]

@[simp]
theorem isFinite_ofInt
    (n : Int) :
  (ofInt n).isFinite = true
  := rfl

end Decimal

end TradeGate
