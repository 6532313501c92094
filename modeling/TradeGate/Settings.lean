import TradeGate.Environment.Assignments
import TradeGate.Path
import TradeGate.Risk.Profile

/-!
# Settings

Settings have defaults.  A value is taken from the fields that are given, or else from
the environment, or else from a file of assignments; in the latter two the names of
settings carry a prefix and the case of letters does not count.  Hidden fields may ask for
another prefix, other files, and another way to look.  Settings stand for a gate
configuration with one profile for each threshold.
-/

namespace TradeGate

/-- What can be set. -/
structure Settings where
  timeframe : String
  cacheMaxEntries : Int
  minRewardRisk : Decimal
  minStopLossPct : Decimal
  maxActivePositions : Int
  logLevel : String
deriving Repr, DecidableEq, Inhabited

namespace Settings

/-- Settings from their fields. -/
def read (fields : Fields) : Reading Settings :=
  Settings.mk
    <$> fields.optional "timeframe" "15m" Value.readText
    <*> fields.optional "cache_max_entries" 0 Value.readInteger
    <*> fields.optional "min_reward_risk" (.ofInt 2) Value.readDecimal
    <*> fields.optional "min_stop_loss_pct" (.ofInt 1) Value.readDecimal
    <*> fields.optional "max_active_positions" 0 Value.readInteger
    <*> fields.optional "log_level" "INFO" Value.readText

/-- The fields of settings by name. -/
def toFields (s : Settings) : Fields :=
  [("timeframe", .text s.timeframe), ("cache_max_entries", .int s.cacheMaxEntries),
    ("min_reward_risk", .decimal s.minRewardRisk),
    ("min_stop_loss_pct", .decimal s.minStopLossPct),
    ("max_active_positions", .int s.maxActivePositions), ("log_level", .text s.logLevel)]

/-- The names of the settings. -/
def names : List String :=
  ["timeframe", "cache_max_entries", "min_reward_risk", "min_stop_loss_pct",
    "max_active_positions", "log_level"]

/-! ### Where settings come from -/

/-- Where settings come from, besides the given fields. -/
structure Sources where
  /-- The begin of the names of variables that hold settings. -/
  lead : String
  /-- Files of assignments, a later one counting more. -/
  files : List Path
  /-- Whether the case of letters in names counts. -/
  isExact : Bool
  /-- Whether variables with an empty value do not count. -/
  skipsEmpty : Bool
  /-- The value that stands for nothing. -/
  nullWord : Option String
deriving Repr, DecidableEq

/-- The name of a file of assignments. -/
def assignmentsName : String := ".env"

/-- The sources where nothing else is asked for. -/
def Sources.standard : Sources :=
  ⟨"ADMISSION_", [Path.here.child assignmentsName], false, false, none⟩

/-- The paths that a value gives: one text, or a list of them, or none. -/
def pathsOf : Value → Except Fault (List Path)
  | .null => .ok []
  | .text s => .ok [.ofText s]
  | .record fields => .ok (fields.map fun f => .ofText f.1)
  | .list vs => vs.mapM fun v =>
    match v with
    | .text s => .ok (.ofText s)
    | v => .error (.wrongKind "path" v.kindName)
  | v => .error (.wrongKind "paths" v.kindName)

/-- The sources that hidden fields ask for. -/
def Sources.ofFields (given : Fields) : Except Fault Sources := do
  let hidden (name : String) : Value := (Value.lookup name given).getD .null
  let lead ←
    match hidden "_env_prefix" with
    | .null => .ok standard.lead
    | .text s => .ok s
    | v => .error (.incompatible "+" v.kindName "str")
  let files ← (Value.lookup "_env_file" given).elim (.ok standard.files) pathsOf
  let nullWord :=
    match hidden "_env_parse_none_str" with
    | .text s => some s
    | _ => none
  return ⟨lead, files, (hidden "_case_sensitive").truth, (hidden "_env_ignore_empty").truth,
    nullWord⟩

/-- The value of the last variable that has a name, nothing where it has no value. -/
def Sources.find? (s : Sources) (assigned : Assignment.Values) (name : String) :
    Option Value :=
  let form (t : String) : String := if s.isExact then t else Environment.folded t
  let counts (v : String × Option String) : Bool := !(s.skipsEmpty && v.2 == some "")
  let value := (assigned.reverse.find? fun v => counts v && form v.1 == form name).bind Prod.snd
  value.map fun t => if s.nullWord = some t then .null else .text t

/-- The value of a setting: given, of the environment, or of files. -/
def source? (given : Fields) (s : Sources) (e : Environment) (inFiles : Assignment.Values)
    (name : String) : Option Value :=
  let outside : Assignment.Values := e.bindings.map fun v => (v.1, some v.2)
  Value.lookup name given
    <|> s.find? outside (s.lead ++ name)
    <|> s.find? inFiles (s.lead ++ name)

/-- The settings from all sources, the assignments of each file given in order. -/
def gather (given : Fields) (s : Sources) (e : Environment) (files : List (List Assignment)) :
    Reading Settings :=
  let inFiles := files.flatMap (Assignment.resolve e false)
  read (names.filterMap fun n => (source? given s e inFiles n).map (n, ·))

/-! ### Settings as a configuration -/

/-- The profiles of the thresholds; a limit that is not positive has none. -/
def profiles (s : Settings) : List Profile :=
  [{ name := "reward_risk", enabled := true,
     note := "Take profit must be at least " ++ s.minRewardRisk.text ++ "x the stop distance",
     minRewardRisk := some s.minRewardRisk, minStopLossPct := none, maxActivePositions := 0 },
   { name := "stop_loss_distance", enabled := true,
     note := "Stop loss must sit at least " ++ s.minStopLossPct.text ++ "% away from entry",
     minRewardRisk := none, minStopLossPct := some s.minStopLossPct, maxActivePositions := 0 }]
  ++ if 0 < s.maxActivePositions then
    [{ name := "max_positions", enabled := true, note := "",
       minRewardRisk := none, minStopLossPct := none,
       maxActivePositions := s.maxActivePositions }]
  else []

/-- The configuration that settings stand for, unless their timeframe is unknown. -/
def config (s : Settings) : Reading GateConfig :=
  (((GateConfig.readTimeframe (.text s.timeframe)).below "timeframe").map fun t =>
    ⟨t, s.profiles⟩)

end Settings

end TradeGate
