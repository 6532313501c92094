import TradeGate.Decimal.Arith

/-!
# The numbers behind binary floats

A float of 64 bits is a not-a-number, an infinity, or an integer times a power of two
with a sign.  `shape` reads that off the bits; exact comparisons, floors and roundings
of floats are then questions about integers.
-/

namespace TradeGate.Binary

/-- What a float of 64 bits stands for; `finite negative m q` is `± m · 2 ^ q`. -/
inductive Shape where
  | nan
  | infinity (negative : Bool)
  | finite (negative : Bool) (m : Nat) (q : Int)
deriving DecidableEq, Repr

/-- The smallest exponent of two. -/
def minExponent : Int := -1074

/-- The integer and the exponent behind a pattern of 64 bits. -/
def shapeOfBits (bits : Nat) : Shape :=
  let negative := bits / twoTo 63 % 2 == 1
  let exponent : Nat := bits / twoTo 52 % twoTo 11
  let fraction : Nat := bits % twoTo 52
  if exponent = 2047 then
    if fraction = 0 then .infinity negative else .nan
  else if exponent = 0 then .finite negative fraction minExponent
  else .finite negative (twoTo 52 + fraction) ((exponent : Int) - 1 + minExponent)

/-- What a float stands for. -/
def shape (x : Float) : Shape :=
  shapeOfBits x.toBits.toNat

/-- The numerator and the denominator of `m · 2 ^ q`. -/
def ratio (m : Nat) (q : Int) : Nat × Nat :=
  (m * twoTo q.toNat, twoTo (-q).toNat)

theorem ratio_snd_pos
    (m : Nat) (q : Int) :
  0 < (ratio m q).2
  := twoTo_pos _

/-- The largest integer that is at most the number, nothing for the special values. -/
def floor? (x : Float) : Option Int :=
  match shape x with
  | .finite negative m q =>
    let (n, d) := ratio m q
    some (Int.fdiv (Decimal.signed negative n) d)
  | _ => none

/-- The number without its fraction, nothing for the special values. -/
def truncate? (x : Float) : Option Int :=
  match shape x with
  | .finite negative m q =>
    let (n, d) := ratio m q
    some (Int.tdiv (Decimal.signed negative n) d)
  | _ => none

/-- Whether the number is a whole one. -/
def isWhole (x : Float) : Bool :=
  match shape x with
  | .finite _ m q =>
    let (n, d) := ratio m q
    n % d == 0
  | _ => false

/-- The decimal that is exactly the number. -/
def toDecimal (x : Float) : Decimal :=
  match shape x with
  | .nan => .quietNaN
  | .infinity s => .infinity s
  | .finite s m q =>
    if 0 ≤ q then .finite s (m * twoTo q.toNat) 0
    else .finite s (m * fiveTo (-q).toNat) q

/-- The float nearest to `± c · 10 ^ e`. -/
def ofScientific (negative : Bool) (c : Nat) (e : Int) : Float :=
  let size : Float :=
    if c = 0 then 0.0
    else if 400 < Decimal.leading c e then 1.0 / 0.0
    else if Decimal.leading c e < -400 then 0.0
    else Float.ofScientific (if 0 ≤ e then c * tenTo e.toNat else c) (decide (e < 0)) (-e).toNat
  if negative then -size else size

/-- The float nearest to an integer. -/
def ofInt (n : Int) : Float :=
  ofScientific (decide (n < 0)) n.natAbs 0

/-- The float nearest to a decimal; nothing for a signaling not-a-number. -/
def ofDecimal? : Decimal → Option Float
  | .finite s c e => some (ofScientific s c e)
  | .infinity s => some (if s then -(1.0 / 0.0) else 1.0 / 0.0)
  | .nan _ false _ => some (0.0 / 0.0)
  | .nan _ true _ => none

end TradeGate.Binary
