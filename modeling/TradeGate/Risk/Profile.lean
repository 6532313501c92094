import TradeGate.Timeframe

/-!
# Risk profiles

A profile holds the thresholds of one named risk.  A threshold that is absent, or a
position limit that is not positive, contributes no gate.  A gate configuration is a
timeframe and a list of profiles with distinct names.
-/

namespace TradeGate

/-- The thresholds of one named risk. -/
structure Profile where
  name : String
  enabled : Bool
  note : String
  /-- The least ratio of reward to risk. -/
  minRewardRisk : Option Decimal
  /-- The least distance of the stop loss from the open price, in percent of it. -/
  minStopLossPct : Option Decimal
  /-- The number of open positions from which on no further one is admitted. -/
  maxActivePositions : Int
deriving DecidableEq, Repr, Inhabited

namespace Profile

/-- A profile from its fields. -/
def read (fields : Fields) : Reading Profile :=
  Profile.mk
    <$> fields.required "risk_name" Value.readText
    <*> fields.optional "enabled" true Value.readTruth
    <*> fields.optional "note" "" Value.readText
    <*> fields.optional "min_reward_risk" none (Value.readNullable Value.readDecimal)
    <*> fields.optional "min_stop_loss_pct" none (Value.readNullable Value.readDecimal)
    <*> fields.optional "max_active_positions" 0 Value.readInteger

/-- The fields of a profile by name. -/
def toFields (p : Profile) : Fields :=
  [("risk_name", .text p.name), ("enabled", .bool p.enabled), ("note", .text p.note),
    ("min_reward_risk", Fields.entry .decimal p.minRewardRisk),
    ("min_stop_loss_pct", Fields.entry .decimal p.minStopLossPct),
    ("max_active_positions", .int p.maxActivePositions)]

/-- Whether the profile contributes a gate. -/
def hasGates (p : Profile) : Bool :=
  p.minRewardRisk.isSome || p.minStopLossPct.isSome || decide (0 < p.maxActivePositions)

/-- The profiles of a configuration that names none. -/
def defaults : List Profile :=
  [{ name := "reward_risk", enabled := true,
     note := "Take profit must be at least twice as far as stop loss",
     minRewardRisk := some (.ofInt 2), minStopLossPct := none, maxActivePositions := 0 },
   { name := "stop_loss_distance", enabled := true,
     note := "Stop loss must sit at least 1% away from entry",
     minRewardRisk := none, minStopLossPct := some (.ofInt 1), maxActivePositions := 0 }]

end Profile

/-- A timeframe and the risk profiles in order. -/
structure GateConfig where
  timeframe : Timeframe
  profiles : List Profile
deriving DecidableEq, Repr, Inhabited

namespace GateConfig

/-- A timeframe by its token. -/
def readTimeframe (v : Value) : Reading Timeframe :=
  match Value.readText v with
  | .done s =>
    match Timeframe.ofToken? s with
    | some t => .done t
    | none =>
      .refuse (.invalid ("timeframe must be one of "
        ++ Value.form (.list (Timeframe.tokens.map .text)) ++ ", got '" ++ s ++ "'"))
  | .refused i is => .refused i is

/-- The texts that occur more than once, each once and in increasing order. -/
def repeated (names : List String) : List String :=
  (names.eraseDups.filter fun n => decide (1 < names.count n)).mergeSort fun a b => !(b < a)

/-- Profiles must have distinct names. -/
def duplicateNames? (c : GateConfig) : Option Flaw :=
  let duplicates := repeated (c.profiles.map Profile.name)
  if duplicates.isEmpty then none
  else some (.invalid ("duplicate risk_name in profiles: "
    ++ Value.form (.list (duplicates.map .text))))

/-- A configuration from its fields. -/
def read (fields : Fields) : Reading GateConfig :=
  .check duplicateNames?
    (GateConfig.mk
      <$> fields.optional "timeframe" .m15 readTimeframe
      <*> fields.optional "profiles" Profile.defaults
        (Value.readList (Value.readRecord Profile.read)))

/-- The fields of a configuration by name. -/
def toFields (c : GateConfig) : Fields :=
  [("timeframe", .text c.timeframe.token),
    ("profiles", .list (c.profiles.map fun p => .record p.toFields))]

/-- The configuration of no fields. -/
def default : GateConfig := ⟨.m15, Profile.defaults⟩

/-- The enabled profiles in order. -/
def enabledProfiles (c : GateConfig) : List Profile :=
  c.profiles.filter Profile.enabled

/-- A name is repeated exactly if it occurs more than once. -/
theorem mem_repeated
    {n : String} {names : List String} :
  n ∈ repeated names ↔ 1 < names.count n
  := by
  simp only [repeated, List.mem_mergeSort, List.mem_filter, List.mem_eraseDups,
    decide_eq_true_eq, and_iff_right_iff_imp]
  intro h
  exact List.count_pos_iff.1 (by omega)

end GateConfig

end TradeGate
