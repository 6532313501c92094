import TradeGate.LogLevel
import TradeGate.Risk.Check
import TradeGate.Scenario.Script
import TradeGate.Setup

/-!
# Scenarios of a setup

Steps that write documents, change the environment, and ask for settings and
configurations.
-/

namespace TradeGate.Scenario

/-- One step on a setup. -/
inductive SetupStep where
  | write (documents : List (String × String))
  | setVariables (vs : List (String × String))
  | lookUp (names : List String)
  | settings (given : Value)
  | keptSettings
  | configOfSettings (given : Value)
  | load (path : Option String) (given : Option Value)
  | logging (level : Value)

namespace SetupStep

/-- The risks of a configuration. -/
def risks (c : GateConfig) : Value :=
  .list ((Risk.ofConfig c : List (Risk Unit)).map fun k => .record k.toFields)

/-- The names of the enabled profiles. -/
def enabled (c : GateConfig) : Value :=
  .list (c.enabledProfiles.map fun p => .text p.name)

/-- Writes documents in order, up to the first that cannot be written. -/
def writeAll : List (String × String) → Shelf → Except Fault Unit × Shelf
  | [], shelf => (.ok (), shelf)
  | d :: rest, shelf =>
    match shelf.write (.ofText d.1) d.2 with
    | (.ok (), shelf) => writeAll rest shelf
    | r => r

/-- The level of a log that is asked for, or else that of the settings. -/
def levelOf (s : Setup) (level : Value) : Except Fault LogLevel × Setup :=
  if level.truth then
    (match level with
      | .text t => LogLevel.ofText t
      | v => .error (.noAttribute v.kindName "upper"), s)
  else
    let (k, s) := s.keptSettings
    (k.bind fun k => LogLevel.ofText k.logLevel, s)

/-- The settings of the fields of a value. -/
def settingsOf (s : Setup) (given : Value) : Except Fault Settings :=
  given.toFields.bind s.settings

/-- Does one step: its result and the setup after it. -/
def run (s : Setup) : SetupStep → Except Fault Reply × Setup
  | write documents =>
    let (r, shelf) := writeAll documents s.shelf
    (r.map fun _ => .nothing, { s with shelf := shelf })
  | setVariables vs =>
    let (r, e) := s.environment.setAll vs
    (r.map fun _ => .nothing, { s with environment := e })
  | lookUp names =>
    (.ok (.value (.list (names.map fun n => Fields.entry .text (s.environment.get? n)))), s)
  | settings given => ((settingsOf s given).map fun k => .fields k.toFields, s)
  | keptSettings =>
    let (k, s) := s.keptSettings
    (k.map fun k => .fields [("settings", .record k.toFields), ("same", .bool true)], s)
  | configOfSettings given =>
    (((settingsOf s given).bind Setup.configOf).map fun c => .fields
      [("config", .record c.toFields), ("schemas", risks c)], s)
  | load path given =>
    match given.mapM (settingsOf s) with
    | .error e => (.error e, s)
    | .ok given =>
      let p := (path.map Path.ofText).getD (Path.here.child Setup.profilesName)
      let (c, s) := s.load p given
      (c.map fun c => .fields
        [("config", .record c.toFields), ("enabled", enabled c), ("schemas", risks c)], s)
  | logging level =>
    let (l, s) := levelOf s level
    (l.map fun l => .texts [l.name, LogLevel.warning.name, LogLevel.recordForm], s)

/-- The reports on a list of steps. -/
def runAll (s : Setup) : List SetupStep → List Reply
  | [] => []
  | step :: rest =>
    let (r, s) := step.run s
    .step r [] :: runAll s rest

end SetupStep

end TradeGate.Scenario
