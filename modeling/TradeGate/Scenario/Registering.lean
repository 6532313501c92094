import TradeGate.Scenario.Script

/-!
# Scenarios of a registry

Steps that register risks, change what was handed in, track positions and evaluate signals, each
reported with the names, the number of risks and open positions, and the lines of the checks that
ran.
-/

namespace TradeGate.Scenario

/-- One step on a registry. -/
inductive RegistryStep where
  | add (c : Candidate World)
  /-- The caller appends a check to a list of its own. -/
  | append (address : Nat) (c : CheckDraft World)
  | get (name : Value)
  | list
  | has (name : Value)
  | openPosition (p : OpenPosition)
  | closePosition (strategy exchange symbol : Value)
  | positions
  | evaluate (signal : Signal) (price timestamp : Value) (frames : Stack)
  /-- A step that could not be set up, or that changes nothing. -/
  | idle (r : Except Fault Unit)

/-- The risks that were entered, the open positions, and the world. -/
structure RegistryState where
  cabinet : Cabinet World
  positions : List (String × OpenPosition)
  world : World

/-- The registry of a state. -/
def RegistryState.registry (s : RegistryState) : Registry World :=
  s.cabinet.registry s.positions

/-- The memory with a check appended to a list. -/
def appendedTo (address : Nat) (c : CheckDraft World) (m : Memory World) : Memory World :=
  { m with lists := fun a => if a = address then m.lists a ++ [c] else m.lists a }

namespace RegistryStep

/-- The report on a decision. -/
def decided (d : Decision) : Reply :=
  .fields [("decision", .record d.toFields), ("admitted", .bool d.admitted),
    ("symbol", .text d.symbol)]

/-- The result of a step and the state after it. -/
def run (s : RegistryState) : RegistryStep → Except Fault Reply × RegistryState
  | add c =>
    let (x, cabinet) := (Cabinet.register c).outcome [] s.cabinet
    (x.map fun _ => .nothing, { s with cabinet := cabinet })
  | append address c =>
    (.ok .nothing,
      { s with cabinet := { s.cabinet with memory := appendedTo address c s.cabinet.memory } })
  | get name => ((s.registry.get name).map fun k => .fields k.toFields, s)
  | list => (.ok (.list (s.registry.risks.map fun k => .fields k.toFields)), s)
  | has name => ((s.registry.has name).map .bool, s)
  | openPosition p => (.ok .nothing, { s with positions := (s.registry.openPosition p).positions })
  | closePosition a b c =>
    (.ok .nothing,
      { s with positions := (s.registry.closePosition a.plain b.plain c.plain).positions })
  | positions =>
    (.ok (.list (s.positions.map fun (k, p) => .list [.text k, .fields p.toFields])), s)
  | evaluate signal price timestamp frames =>
    let (d, w) := (s.registry.evaluate signal price timestamp).outcome frames s.world
    (d.map decided, { s with world := w })
  | idle x => (x.map fun _ => .nothing, s)

/-- The reports on a list of steps. -/
def runAll (s : RegistryState) : List RegistryStep → List Reply
  | [] => []
  | step :: rest =>
    let (x, s) := step.run s
    .step x [("names", .texts s.registry.names), ("len", .nat s.registry.risks.length),
        ("open", .nat s.registry.openCount), ("trace", .value (.list s.world.trace.reverse))]
      :: runAll { s with world := { s.world with trace := [] } } rest

end RegistryStep

end TradeGate.Scenario
