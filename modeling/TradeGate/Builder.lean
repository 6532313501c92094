import TradeGate.Market.Signal
import TradeGate.Market.Tick
import TradeGate.Value.Arith

/-!
# Trend-following signals

A price above its exponential average proposes a long trade, a price below it a short
one.  The take profit and the stop loss are placed at multiples of the average true
range from the price.  No trade is proposed where the price equals its average, where an
indicator is missing, or where the range is not positive.  The open price is left to the
market.
-/

namespace TradeGate

/-- The distances of the take profit and of the stop loss, as multiples of the average
true range. -/
structure TrendBuilder where
  takeProfitMultiple : Value
  stopLossMultiple : Value
deriving Repr, Inhabited

namespace TrendBuilder

/-- Three ranges to the take profit, one and a half to the stop loss. -/
def standard : TrendBuilder :=
  ⟨.decimal (.ofInt 3), .decimal (.finite false 15 (-1))⟩

/-- Whether an indicator is absent or not a number. -/
def isMissing : Value → Bool
  | .null => true
  | .decimal d => d.isNaN
  | .float x => x.isNaN
  | _ => false

/-- The side that a price proposes against its average. -/
def sideOf? (price : Decimal) (ema : Value) : Except Fault (Option Side) := do
  match ← Value.order ">" (.decimal price) ema with
  | some .gt => return some .long
  | some .lt => return some .short
  | _ => return none

/-- The prices of the take profit and of the stop loss around a price. -/
def targets (side : Side) (price : Decimal) (profit loss : Value) :
    Except Fault (Decimal × Decimal) :=
  match side with
  | .long => do
    let t ← Value.shifted Decimal.add "+" price profit
    let s ← Value.shifted Decimal.sub "-" price loss
    return (t, s)
  | .short => do
    let t ← Value.shifted Decimal.sub "-" price profit
    let s ← Value.shifted Decimal.add "+" price loss
    return (t, s)

/-- The signal at the given prices, which must be finite. -/
def signalAt (tick : Tick) (side : Side) (takeProfit stopLoss : Decimal) (note : String) :
    Except Fault Signal :=
  let fields : Fields :=
    [("price_take_profit", .decimal takeProfit), ("price_stop_loss", .decimal stopLoss)]
  Except.mapError Fault.refused <| Reading.finish .signal <|
    (fun t s => Signal.mk tick.symbol side t s none (some tick.timestamp) note)
      <$> fields.required "price_take_profit" Value.readDecimal
      <*> fields.required "price_stop_loss" Value.readDecimal

/-- The signal that a tick proposes under the given average and range. -/
def propose? (b : TrendBuilder) (tick : Tick) (ema atr : Value) :
    Except Fault (Option Signal) := do
  if isMissing ema || isMissing atr then return none
  match ← Value.order "<=" atr (.int 0) with
  | some .gt =>
    let profit ← atr.times b.takeProfitMultiple
    let loss ← atr.times b.stopLossMultiple
    match ← sideOf? tick.price ema with
    | none => return none
    | some side =>
      let (t, s) ← targets side tick.price profit loss
      return some (← signalAt tick side t s ("ATR=" ++ atr.plain ++ " EMA=" ++ ema.plain))
  | _ => return none

/-- The signal that a tick proposes under indicators given by name. -/
def build (b : TrendBuilder) (tick : Tick) (indicators : Value) :
    Except Fault (Option Signal) :=
  if !indicators.truth then .ok none
  else
    match indicators with
    | .record fields =>
      let get (name : String) : Value := (Value.lookup name fields).getD .null
      b.propose? tick (get "ema") (get "atr")
    | v => .error (.noAttribute v.kindName "get")

end TrendBuilder

end TradeGate
