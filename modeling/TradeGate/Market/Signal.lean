import TradeGate.Decimal.Arith
import TradeGate.Reading

/-!
# Signals and open positions

A signal is a candidate trade: a side, a take profit and a stop loss, and an open price
unless the trade enters at the market.  The reward is the way from the open price to the
take profit, the risk the way from the stop loss to the open price, both counted in the
trade's favour.  An open position is a trade that was entered.
-/

namespace TradeGate

/-- The side of a trade. -/
inductive Side where
  | long
  | short
deriving DecidableEq, Repr, Inhabited

/-- The word for a side. -/
def Side.word : Side → String
  | long => "long"
  | short => "short"

/-- The side that a word stands for. -/
def Side.ofWord? (s : String) : Option Side :=
  if s = "long" then some .long else if s = "short" then some .short else none

@[simp]
theorem Side.ofWord?_word
    (s : Side) :
  Side.ofWord? s.word = some s
  := by
  cases s <;> rfl

/-- A candidate trade. -/
structure Signal where
  symbol : String
  side : Side
  takeProfit : Decimal
  stopLoss : Decimal
  openPrice : Option Decimal
  timestamp : Option Instant
  note : String
deriving DecidableEq, Repr, Inhabited

namespace Signal

/-- A signal from its fields. -/
def read (fields : Fields) : Reading Signal :=
  Signal.mk
    <$> fields.required "symbol" Value.readText
    <*> fields.required "position" (Value.readChoice Side.ofWord?)
    <*> fields.required "price_take_profit" Value.readDecimal
    <*> fields.required "price_stop_loss" Value.readDecimal
    <*> fields.optional "price_open" none (Value.readNullable Value.readDecimal)
    <*> fields.optional "timestamp" none (Value.readNullable Value.readInstant)
    <*> fields.optional "note" "" Value.readText

/-- The fields of a signal by name. -/
def toFields (s : Signal) : Fields :=
  [("symbol", .text s.symbol), ("position", .text s.side.word),
    ("price_take_profit", .decimal s.takeProfit), ("price_stop_loss", .decimal s.stopLoss),
    ("price_open", Fields.entry .decimal s.openPrice),
    ("timestamp", Fields.entry .instant s.timestamp), ("note", .text s.note)]

/-- The signal with an open price: its own, or else the given price. -/
def withOpenPrice (s : Signal) (price : Decimal) : Signal :=
  match s.openPrice with
  | some _ => s
  | none => { s with openPrice := some price }

/-- The way from the open price `o` to the take profit. -/
def rewardFrom (s : Signal) (o : Decimal) : Except Decimal.Trap Decimal :=
  match s.side with
  | .long => s.takeProfit.sub o
  | .short => o.sub s.takeProfit

/-- The way from the stop loss to the open price `o`. -/
def riskFrom (s : Signal) (o : Decimal) : Except Decimal.Trap Decimal :=
  match s.side with
  | .long => o.sub s.stopLoss
  | .short => s.stopLoss.sub o

/-- The reward of a signal that has an open price. -/
def reward? (s : Signal) : Option (Except Decimal.Trap Decimal) :=
  s.openPrice.map s.rewardFrom

/-- The risk of a signal that has an open price. -/
def risk? (s : Signal) : Option (Except Decimal.Trap Decimal) :=
  s.openPrice.map s.riskFrom

@[simp]
theorem withOpenPrice_of_some
    {s : Signal} {o : Decimal} (p : Decimal) (h : s.openPrice = some o) :
  s.withOpenPrice p = s
  := by
  simp [withOpenPrice, h]

theorem openPrice_withOpenPrice
    (s : Signal) (p : Decimal) :
  (s.withOpenPrice p).openPrice = some (s.openPrice.getD p)
  := by
  cases h : s.openPrice <;> simp [withOpenPrice, h]

end Signal

/-- A trade that was entered. -/
structure OpenPosition where
  strategy : String
  exchange : String
  symbol : String
  side : Side
  openPrice : Decimal
  takeProfit : Decimal
  stopLoss : Decimal
  openedAt : Option Instant
deriving DecidableEq, Repr, Inhabited

namespace OpenPosition

/-- An open position from its fields. -/
def read (fields : Fields) : Reading OpenPosition :=
  OpenPosition.mk
    <$> fields.required "strategy_name" Value.readText
    <*> fields.required "exchange_name" Value.readText
    <*> fields.required "symbol" Value.readText
    <*> fields.required "position" (Value.readChoice Side.ofWord?)
    <*> fields.required "price_open" Value.readDecimal
    <*> fields.required "price_take_profit" Value.readDecimal
    <*> fields.required "price_stop_loss" Value.readDecimal
    <*> fields.optional "opened_at" none (Value.readNullable Value.readInstant)

/-- The fields of a position by name. -/
def toFields (p : OpenPosition) : Fields :=
  [("strategy_name", .text p.strategy), ("exchange_name", .text p.exchange),
    ("symbol", .text p.symbol), ("position", .text p.side.word),
    ("price_open", .decimal p.openPrice), ("price_take_profit", .decimal p.takeProfit),
    ("price_stop_loss", .decimal p.stopLoss),
    ("opened_at", Fields.entry .instant p.openedAt)]

/-- The key under which a position is tracked: strategy, exchange and symbol joined by
underscores. -/
def keyOf (strategy exchange symbol : String) : String :=
  strategy ++ "_" ++ exchange ++ "_" ++ symbol

def key (p : OpenPosition) : String :=
  keyOf p.strategy p.exchange p.symbol

end OpenPosition

end TradeGate
