import TradeGate.Fault
import TradeGate.Market.Signal
import TradeGate.Risk.Profile

/-!
# Risk gates

A gate inspects a signal in its circumstances and finds it acceptable or not.  The
reward-risk gate compares the ratio of reward to risk with a minimum, the stop-loss gate
the distance of the stop loss in percent of the open price, and the position gate the
number of open positions with a limit.  A figure exactly on its threshold is accepted;
the price gates accept a signal without an open price.
-/

namespace TradeGate

/-- A signal and everything a check may look at. -/
structure Inspection where
  symbol : String
  signal : Signal
  currentPrice : Decimal
  timestamp : Option Instant
  strategy : String
  exchange : String
  frameName : String
  backtest : Bool
  openCount : Int
  openPositions : List OpenPosition
deriving DecidableEq, Repr, Inhabited

/-- An inspection of a signal among open positions, from its other fields. -/
def Inspection.read (signal : Signal) (openPositions : List OpenPosition) (fields : Fields) :
    Reading Inspection :=
  (fun symbol currentPrice timestamp strategy exchange frameName backtest openCount =>
    Inspection.mk symbol signal currentPrice timestamp strategy exchange frameName backtest
      openCount openPositions)
    <$> fields.required "symbol" Value.readText
    <*> fields.required "current_price" Value.readDecimal
    <*> fields.optional "timestamp" none (Value.readNullable Value.readInstant)
    <*> fields.optional "strategy_name" "" Value.readText
    <*> fields.optional "exchange_name" "" Value.readText
    <*> fields.optional "frame_name" "" Value.readText
    <*> fields.optional "backtest" false Value.readTruth
    <*> fields.optional "active_position_count" 0 Value.readInteger

/-- The fields of an inspection by name. -/
def Inspection.toFields (i : Inspection) : Fields :=
  [("symbol", .text i.symbol), ("pending_signal", .record i.signal.toFields),
    ("current_price", .decimal i.currentPrice),
    ("timestamp", Fields.entry .instant i.timestamp), ("strategy_name", .text i.strategy),
    ("exchange_name", .text i.exchange), ("frame_name", .text i.frameName),
    ("backtest", .bool i.backtest), ("active_position_count", .int i.openCount),
    ("active_positions", .list (i.openPositions.map fun p => .record p.toFields))]

/-- What a check found.  The fields are what the check says, of any kind; the check is
passed if `passed` counts as true. -/
structure Finding where
  passed : Value
  reason : Value
deriving Repr, Inhabited

namespace Finding

/-- The finding that nothing speaks against a signal. -/
def pass : Finding := ⟨.bool true, .text ""⟩

/-- The finding that a signal is not acceptable. -/
def fail (reason : Value) : Finding := ⟨.bool false, reason⟩

def isPass (f : Finding) : Bool := f.passed.truth

/-- The fields of a finding by name. -/
def toFields (f : Finding) : Fields :=
  [("passed", f.passed), ("reason", f.reason)]

end Finding

/-- One of the standard gates with its threshold. -/
inductive Gate where
  | rewardRisk (minimum : Decimal)
  | stopDistance (minimum : Decimal)
  | maxPositions (limit : Value)
deriving Repr, Inhabited

namespace Gate

/-- The threshold that a value denotes by its plain text. -/
def thresholdOf (v : Value) : Except Fault Decimal :=
  (Decimal.ofText v.plain).mapError .trapped

/-- What a gate demands. -/
def note : Gate → String
  | rewardRisk minimum => "Reward/risk ratio must be at least " ++ minimum.text
  | stopDistance minimum => "Stop loss must be at least " ++ minimum.text ++ "% from entry"
  | maxPositions limit => "At most " ++ limit.plain ++ " concurrent positions"

/-- A figure with two places after the point, a half going away from zero. -/
def figureText (x : Decimal) : Except Decimal.Trap String :=
  (x.roundTo (-2)).map Decimal.text

/-- Accepts a ratio of reward to risk that is not below the minimum. -/
def judgeRatio (minimum : Decimal) (s : Signal) (o : Decimal) :
    Except Decimal.Trap Finding := do
  let reward ← s.rewardFrom o
  let risk ← s.riskFrom o
  if ← risk.atMost .zero then
    return .fail (.text "Invalid SL placement: stop loss is on the wrong side of entry")
  let ratio ← reward.div risk
  if ← ratio.less minimum then
    return .fail (.text
      ("Poor R/R ratio: " ++ (← figureText ratio) ++ " (minimum " ++ minimum.text ++ ")"))
  return .pass

/-- The distance of the stop loss from the open price, in percent of the open price. -/
def distanceOf (s : Signal) (o : Decimal) : Except Decimal.Trap Decimal := do
  let difference ← s.riskFrom o
  let share ← difference.div o
  share.mul (.ofInt 100)

/-- Accepts a distance of the stop loss that is not below the minimum. -/
def judgeDistance (minimum : Decimal) (s : Signal) (o : Decimal) :
    Except Decimal.Trap Finding := do
  if ← o.atMost .zero then
    return .fail (.text ("Invalid open price: " ++ o.text))
  let distance ← distanceOf s o
  if ← distance.less minimum then
    return .fail (.text
      ("SL too close: " ++ (← figureText distance) ++ "% (minimum " ++ minimum.text ++ "%)"))
  return .pass

/-- Whether `count` is at least a limit of any kind of number. -/
def reaches (count : Int) (limit : Value) : Except Fault Bool :=
  match limit with
  | .float x =>
    .ok (match Decimal.order? (.ofInt count) (Binary.toDecimal x) with
      | some o => o != .lt
      | none => false)
  | v =>
    match v.number? with
    | some l => ((Decimal.order (.ofInt count) l).map (· != .lt)).mapError .trapped
    | none => .error (.incomparable ">=" "int" v.kindName)

/-- Accepts a signal while the number of open positions is below the limit. -/
def judgeCount (limit : Value) (count : Int) : Except Fault Finding := do
  if ← reaches count limit then
    return .fail (.text
      ("Too many active positions: " ++ toString count ++ " (limit " ++ limit.plain ++ ")"))
  return .pass

/-- What a gate finds. -/
def judge (g : Gate) (i : Inspection) : Except Fault Finding :=
  match g with
  | rewardRisk minimum =>
    match i.signal.openPrice with
    | none => .ok .pass
    | some o => (judgeRatio minimum i.signal o).mapError .trapped
  | stopDistance minimum =>
    match i.signal.openPrice with
    | none => .ok .pass
    | some o => (judgeDistance minimum i.signal o).mapError .trapped
  | maxPositions limit => judgeCount limit i.openCount

/-- The gates of a profile: one for each threshold that it sets. -/
def ofProfile (p : Profile) : List Gate :=
  (p.minRewardRisk.map rewardRisk).toList
    ++ (p.minStopLossPct.map stopDistance).toList
    ++ (if 0 < p.maxActivePositions then [maxPositions (.int p.maxActivePositions)] else [])

/-- A profile has gates exactly if it says so. -/
theorem ofProfile_ne_nil_iff
    (p : Profile) :
  ofProfile p ≠ [] ↔ p.hasGates = true
  := by
  cases h₁ : p.minRewardRisk <;> cases h₂ : p.minStopLossPct <;>
    by_cases h₃ : 0 < p.maxActivePositions <;> simp [ofProfile, Profile.hasGates, h₁, h₂, h₃]

end Gate

end TradeGate
