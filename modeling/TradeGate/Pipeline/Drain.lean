import TradeGate.Pipeline.Basic
import TradeGate.Stream

/-!
# Runs over a tick source

A drain turns a source of ticks into a source of decisions: it pulls a tick, waits for
its indicators, and delivers the decision if there is one.  However it ends, it closes
the tick source, unless it never began.  It is a generator, so that its faults cannot be taken
for the end of the decisions.  A run is the scoped stream of a drain: its frame
is current during indicators, builder, checks and subscribers.
-/

namespace TradeGate

/-- How far a drain is. -/
inductive DrainPhase where
  | fresh
  | idle
  | waiting (tick : Tick) (key : String) (window : Int) (job : Nat)
  | finished
deriving Repr, Inhabited

namespace Pipeline

variable {ι σ : Type} (p : Pipeline ι σ)

/-- The state of a drain beside the desk. -/
abbrev DrainState (ι σ : Type) := DrainPhase × Desk ι σ

/-- An action on the desk beside a drain's phase. -/
def onDesk {α : Type} (a : Act (Desk ι σ) α) : Act (DrainState ι σ) α :=
  a.zoom Prod.snd fun d s => (s.1, d)

def setPhase (f : DrainPhase) : Act (DrainState ι σ) Unit :=
  modify fun s => (f, s.2)

/-- The drain is over: the tick source is closed if it has a way. -/
def finishDrain (ticks : Source σ Tick) : Act (DrainState ι σ) Unit := do
  setPhase .finished
  match ticks.close with
  | some close => onDesk (Desk.lift close)
  | none => pure ()

/-- The action, with the drain finished where it fails. -/
def orFinish {α : Type} (ticks : Source σ Tick) (a : Act (DrainState ι σ) α) :
    Act (DrainState ι σ) α :=
  tryCatch a fun e => do
    finishDrain ticks
    throw e

/-- What a concluded tick delivers. -/
def deliver (d : Option Decision) : Act (DrainState ι σ) (Pull Decision) := do
  setPhase .idle
  match d with
  | some d => return .item d
  | none => return .later

/-- Begins to iterate the tick source. -/
def startTicks (ticks : Source σ Tick) : Act (DrainState ι σ) Unit :=
  match ticks.start with
  | some start => onDesk (Desk.lift start)
  | none => throw (.wrongKind "an asynchronous source" "another value")

/-- Pulls a tick and asks for its indicators. -/
def pullTick (ticks : Source σ Tick) : Act (DrainState ι σ) (Pull Decision) := do
  match ← onDesk (Desk.lift ticks.pull) with
  | .done => return .done
  | .later => return .later
  | .item tick =>
    match ← onDesk (p.ask tick.symbol) with
    | .ready v => deliver (← onDesk (p.conclude tick v))
    | .waiting key window job => do
      setPhase (.waiting tick key window job)
      return .later

/-- Goes on with a drain that waits for no indicators. -/
def nextTick (ticks : Source σ Tick) : Act (DrainState ι σ) (Pull Decision) := do
  match ← orFinish ticks (p.pullTick ticks) with
  | .done => do
    finishDrain ticks
    return .done
  | r => return r

/-- One step of a drain. -/
def stepDrain (ticks : Source σ Tick) : Act (DrainState ι σ) (Pull Decision) := do
  match (← get).1 with
  | .finished => return .done
  | .waiting tick key window job =>
    match (← get).2.outcome? job with
    | none => return .later
    | some o => orFinish ticks (do deliver (← onDesk (p.receive tick key window o)))
  | .fresh => do
    setPhase .idle
    orFinish ticks (startTicks ticks)
    p.nextTick ticks
  | .idle => p.nextTick ticks

/-- Ends a drain before its ticks are exhausted. -/
def closeDrain (ticks : Source σ Tick) : Act (DrainState ι σ) Unit := do
  match (← get).1 with
  | .fresh => setPhase .finished
  | .finished => pure ()
  | _ => finishDrain ticks

/-- A fault as it leaves a drain. -/
def faultOut (e : Fault) : Fault :=
  e.acrossTask.acrossGenerator

/-- The action, with its faults as they leave a drain. -/
def fromDrain {α : Type} (a : Act (DrainState ι σ) α) : Act (DrainState ι σ) α :=
  tryCatch a fun e => throw (faultOut e)

/-- The drain of a tick source. -/
def drain (ticks : Source σ Tick) : Source (DrainState ι σ) Decision where
  start := some (pure ())
  pull := fromDrain (p.stepDrain ticks)
  close := some (fromDrain (closeDrain ticks))

end Pipeline

end TradeGate
