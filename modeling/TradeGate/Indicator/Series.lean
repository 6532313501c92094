import TradeGate.Binary.Reader
import TradeGate.Fault
import TradeGate.Indicator.Smoothing
import TradeGate.Market.Tick
import TradeGate.Value.Arith

/-!
# Indicators of dynamic series

Series and periods are given as values of any kind.  Every item of a series is turned
into a float; a period is a whole number.  The indicators of the latest candle are an
exponential average of the closing prices and an average true range.
-/

namespace TradeGate

namespace Value

/-- The float that a value stands for. -/
def toFloat : Value → Except Fault Float
  | bool b => .ok (if b then 1.0 else 0.0)
  | int n =>
    let x := Binary.ofInt n
    if x.isInf then .error (.outOfRange "int too large to convert to float") else .ok x
  | float x => .ok x
  | decimal d =>
    match Binary.ofDecimal? d with
    | some x => .ok x
    | none => .error (.badValue "cannot convert signaling NaN to float")
  | text s =>
    match Binary.ofText? s with
    | some x => .ok x
    | none => .error (.badValue ("could not convert string to float: " ++ Text.quoted s))
  | bytes bs =>
    match (asciiText? bs).bind Binary.ofText? with
    | some x => .ok x
    | none => .error (.badValue ("could not convert string to float: " ++ Text.quotedBytes bs))
  | v => .error (.wrongKind "a number" v.kindName)

/-- The items of a value that has items: the characters of a text, the numbers of bytes,
the names of a record's fields. -/
def items? : Value → Option (List Value)
  | text s => some (s.toList.map fun c => .text (String.singleton c))
  | bytes bs => some (bs.map fun b => .int b.toNat)
  | list vs => some vs
  | record fields => some (fields.map fun f => .text f.1)
  | _ => none

/-- The floats of a series. -/
def toSeries (v : Value) : Except Fault (List Float) :=
  match v.items? with
  | some vs => vs.mapM toFloat
  | none => .error (.wrongKind "a series" v.kindName)

end Value

namespace Indicator

/-- The number of bars of an average. -/
inductive Period where
  | whole (n : Int)
  | fractional (x : Float)
deriving Repr

/-- The period that a value denotes. -/
def Period.ofValue (v : Value) : Except Fault Period :=
  match v with
  | .int n => .ok (.whole n)
  | .bool b => .ok (.whole (if b then 1 else 0))
  | .float x => .ok (.fractional x)
  | v => .error (.wrongKind "a number of bars" v.kindName)

/-- The factor of an average is a quotient by its period, moved by `shift`: this must not be
zero or too large for a float. -/
def Period.checkDivisor (p : Period) (shift : Int) : Except Fault Unit := do
  let d ← match p with
    | .whole n => Value.toFloat (.int (n + shift))
    | .fractional x => .ok (x + Binary.ofInt shift)
  if d == 0.0 then throw (.zeroDivision "float division by zero")

/-- The float that is not a number. -/
def missing : Float := 0.0 / 0.0

/-- An average of a series at its last value: not a number where the period is not positive or
the series is shorter.  Otherwise the period must be whole. -/
def averageOf (average? : List Float → Int → Option Float) (xs : List Float) (p : Period) :
    Except Fault Float :=
  match p with
  | .whole n => .ok ((average? xs n).getD missing)
  | .fractional x =>
    if x < 1.0 || Float.ofNat xs.length < x then .ok missing
    else .error (.wrongKind "a whole number" "float")

/-- The exponential average at the last value of a series. -/
def emaOf (values period : Value) : Except Fault Float := do
  let xs ← values.toSeries
  let p ← Period.ofValue period
  p.checkDivisor 1
  averageOf ema? xs p

/-- The true ranges of three series. -/
def trueRangesOf (highs lows closes : Value) : Except Fault (List Float) := do
  let h ← highs.toSeries
  let l ← lows.toSeries
  let c ← closes.toSeries
  match trueRanges? h l c with
  | some r => .ok r
  | none => .error (.badValue "")

/-- The average true range at the last bar. -/
def atrOf (highs lows closes period : Value) : Except Fault Float := do
  let r ← trueRangesOf highs lows closes
  let p ← Period.ofValue period
  p.checkDivisor 0
  averageOf wilder? r p

/-- The indicators of the newest candle. -/
structure Latest where
  ema : Decimal
  atr : Decimal
  closing : Decimal
deriving Repr, Inhabited

/-- The decimal with the digits of a float. -/
def decimalOf (x : Float) : Decimal :=
  match Decimal.ofText (Binary.text x) with
  | .ok d => d
  | .error _ => .quietNaN

/-- Whether a value is greater than another one. -/
def exceeds (x y : Value) : Except Fault Bool := do
  return (← x.order ">" y) == some .gt

/-- The indicators of the newest of some candles, nothing where they are fewer than a
period. -/
def latest (candles : List Candle) (emaPeriod atrPeriod : Value) :
    Except Fault (Option Latest) := do
  let needed := if ← exceeds atrPeriod emaPeriod then atrPeriod else emaPeriod
  if ← exceeds needed (.int candles.length) then return none
  let series (f : Candle → Decimal) : Value := .list (candles.map fun c => .decimal (f c))
  let closes := series Candle.closing
  let ema ← emaOf closes emaPeriod
  let atr ← atrOf (series Candle.high) (series Candle.low) closes atrPeriod
  match candles.getLast? with
  | some c => return some ⟨decimalOf ema, decimalOf atr, c.closing⟩
  | none => throw (.badIndex "list index out of range")

/-- The indicators by name. -/
def Latest.toValue (l : Latest) : Value :=
  .record [("ema", .decimal l.ema), ("atr", .decimal l.atr), ("close", .decimal l.closing)]

end Indicator

end TradeGate
