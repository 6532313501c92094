import TradeGate.Decimal.Arith
import TradeGate.Fault

/-!
# Arithmetic on dynamic numbers

Sums, differences, products and comparisons of values.  Whole numbers and truth values
mix with every kind of number, decimals and floats only in comparisons; values of other
kinds have no place in arithmetic.
-/

namespace TradeGate.Value

/-- The whole number behind a whole number or a truth value. -/
def whole? : Value → Option Int
  | int n => some n
  | bool b => some (if b then 1 else 0)
  | _ => none

/-- The decimal behind a decimal, a whole number or a truth value. -/
def decimalLike? : Value → Option Decimal
  | decimal d => some d
  | v => v.whole?.map .ofInt

/-- A whole number as a float, which must not be too large. -/
def wholeToFloat (n : Int) : Except Fault Float :=
  let x := Binary.ofInt n
  if x.isInf then .error (.outOfRange "int too large to convert to float") else .ok x

/-- The number of items of a value that a product with a whole number repeats. -/
def repeatable? : Value → Option Nat
  | text s => some s.length
  | bytes bs => some bs.length
  | list vs => some vs.length
  | _ => none

/-- The number of items beyond which no value can be held. -/
def maxItems : Nat := twoTo 47

/-- Whether a value of `length` items can be repeated `n` times: the number must fit into 64
bits, and so must the number of all items; lists have a limit of their own. -/
def checkRepeat (v : Value) (length : Nat) (n : Int) : Except Fault Unit :=
  if n < -(twoTo 63 : Int) ∨ (twoTo 63 : Int) ≤ n then
    .error (.outOfRange "cannot fit 'int' into an index-sized integer")
  else
    let all := n.toNat * length
    if all ≤ maxItems ∨ n = 1 then .ok ()
    else
      match v with
      | text _ =>
        if all < twoTo 63 then .error .exhausted
        else .error (.outOfRange "repeated string is too long")
      | bytes _ =>
        if all < twoTo 63 then .error .exhausted
        else .error (.outOfRange "repeated bytes are too long")
      | _ => .error .exhausted

/-- The product of two values.  A whole number times a text or a list is one again, of
which only the kind is kept. -/
def times (x y : Value) : Except Fault Value :=
  match x, y with
  | float a, float b => .ok (.float (a * b))
  | float a, y =>
    match y.whole? with
    | some n => (wholeToFloat n).map fun b => .float (a * b)
    | none => .error (.incompatible "*" "float" y.kindName)
  | x, float b =>
    match x.whole? with
    | some n => (wholeToFloat n).map fun a => .float (a * b)
    | none => .error (.incompatible "*" x.kindName "float")
  | x, y =>
    match x.whole?, y.whole? with
    | some m, some n => .ok (.int (m * n))
    | some n, none =>
      match y.repeatable? with
      | some length => (checkRepeat y length n).map fun _ => y
      | none => decimals x y
    | none, some n =>
      match x.repeatable? with
      | some length => (checkRepeat x length n).map fun _ => x
      | none => decimals x y
    | none, none => decimals x y
where
  /-- The product of two values of which one is a decimal. -/
  decimals (x y : Value) : Except Fault Value :=
    match x.decimalLike?, y.decimalLike? with
    | some a, some b => ((a.mul b).map Value.decimal).mapError .trapped
    | _, _ => .error (.incompatible "*" x.kindName y.kindName)

/-- A decimal moved up or down by a value. -/
def shifted (operation : Decimal → Decimal → Except Decimal.Trap Decimal) (sign : String)
    (x : Decimal) (v : Value) : Except Fault Decimal :=
  match v.decimalLike? with
  | some d => (operation x d).mapError .trapped
  | none => .error (.incompatible sign "Decimal" v.kindName)

/-- The order of two numbers of any kind.  A float that is not a number is in no order,
a decimal that is none stops the comparison. -/
def order (relation : String) (x y : Value) : Except Fault (Option Ordering) :=
  match x.number?, y.number? with
  | some a, some b =>
    match Decimal.order? a b with
    | some o => .ok (some o)
    | none =>
      match x, y with
      | decimal _, _ => .error (.trapped .invalidOperation)
      | _, decimal _ => .error (.trapped .invalidOperation)
      | _, _ => .ok none
  | _, _ => .error (.incomparable relation x.kindName y.kindName)

end TradeGate.Value
