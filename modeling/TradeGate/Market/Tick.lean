import TradeGate.Reading

/-!
# Ticks and candles

A tick is one price of a symbol at an instant.  A candle is one closed bar of the
symbol's history.
-/

namespace TradeGate

/-- A single price of a symbol. -/
structure Tick where
  symbol : String
  price : Decimal
  timestamp : Instant
  high : Option Decimal
  low : Option Decimal
  volume : Option Decimal
deriving DecidableEq, Repr, Inhabited

/-- A tick from its fields. -/
def Tick.read (fields : Fields) : Reading Tick :=
  Tick.mk
    <$> fields.required "symbol" Value.readText
    <*> fields.required "price" Value.readDecimal
    <*> fields.required "timestamp" Value.readInstant
    <*> fields.optional "high" none (Value.readNullable Value.readDecimal)
    <*> fields.optional "low" none (Value.readNullable Value.readDecimal)
    <*> fields.optional "volume" none (Value.readNullable Value.readDecimal)

/-- The fields of a tick by name. -/
def Tick.toFields (t : Tick) : Fields :=
  [("symbol", .text t.symbol), ("price", .decimal t.price), ("timestamp", .instant t.timestamp),
    ("high", Fields.entry .decimal t.high), ("low", Fields.entry .decimal t.low),
    ("volume", Fields.entry .decimal t.volume)]

/-- One closed bar of a symbol's history; `opening` and `closing` are its first and its
last price. -/
structure Candle where
  symbol : String
  timestamp : Instant
  opening : Decimal
  high : Decimal
  low : Decimal
  closing : Decimal
  volume : Decimal
deriving DecidableEq, Repr, Inhabited

/-- A candle from its fields. -/
def Candle.read (fields : Fields) : Reading Candle :=
  Candle.mk
    <$> fields.required "symbol" Value.readText
    <*> fields.required "timestamp" Value.readInstant
    <*> fields.required "open" Value.readDecimal
    <*> fields.required "high" Value.readDecimal
    <*> fields.required "low" Value.readDecimal
    <*> fields.required "close" Value.readDecimal
    <*> fields.optional "volume" .zero Value.readDecimal

/-- The fields of a candle by name. -/
def Candle.toFields (c : Candle) : Fields :=
  [("symbol", .text c.symbol), ("timestamp", .instant c.timestamp), ("open", .decimal c.opening),
    ("high", .decimal c.high), ("low", .decimal c.low), ("close", .decimal c.closing),
    ("volume", .decimal c.volume)]

/-- The full range of a candle. -/
def Candle.range (c : Candle) : Except Decimal.Trap Decimal :=
  c.high.sub c.low

end TradeGate
