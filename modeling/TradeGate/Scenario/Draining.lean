import TradeGate.Builder
import TradeGate.Indicator.Series
import TradeGate.Journal.Json
import TradeGate.Pipeline.Drain
import TradeGate.Scenario.Caching

/-!
# Scenarios of a pipeline

Runs over scripted ticks with scripted indicators, builders and subscribers.  Runs that
are started together take turns: each goes on until it waits for a computation, then all
computations that are due are run, and the runs go on in the order of the computations
that they waited for.
-/

namespace TradeGate.Scenario

/-! ### Injected functions -/

/-- Where the indicators come from: one value for each computation, or the candles of
symbols under two periods. -/
inductive IndicatorScript where
  | values (script : List (Scripted Value))
  | candles (rows : List (String × Scripted (List Candle))) (ema atr : Value)

namespace IndicatorScript

/-- The name of the indicator function, if it has a fixed one. -/
def name : IndicatorScript → Value
  | values _ => .null
  | candles _ ema atr => .text ("indicators_ema" ++ ema.plain ++ "_atr" ++ atr.plain)

/-- Computes the indicators of a symbol. -/
def compute (s : IndicatorScript) (symbol : String) : Act World Value := do
  let f := (← Act.stack).current
  let n ← modifyGet fun w =>
    (w.computed.length, { w with computed := .list [.text symbol, f.strategy] :: w.computed })
  match s with
  | values script => Act.ofExcept (item (.ok .null) script n)
  | candles rows ema atr =>
    match rows.find? fun r => r.1 == symbol with
    | none => throw (.unknownKey (some (.text symbol)))
    | some (_, history) => do
      let latest ← Act.ofExcept (do Indicator.latest (← history) ema atr)
      return (latest.map Indicator.Latest.toValue).getD .null

end IndicatorScript

/-- Where signals come from: the trend, or one outcome for each tick. -/
inductive BuilderScript where
  | trend (b : TrendBuilder)
  | signals (script : List (Scripted (Option Signal)))

/-- Proposes a signal for a tick. -/
def BuilderScript.propose (s : BuilderScript) (tick : Tick) (indicators : Value) :
    Act World (Option Signal) := do
  match s with
  | trend b => Act.ofExcept (b.build tick indicators)
  | signals script =>
    let n ← modifyGet fun w => w.next "builder"
    Act.ofExcept (item (.ok none) script n)

/-- Tells a subscriber a decision.  The journal records it; the others note it, and then
one kind fails and one kind ends its own subscription. -/
def tell (name : String) (d : Decision) : Act (Desk String World) Unit := do
  if name = "report" then
    let f := (← Act.stack).current
    Desk.lift (modify fun w => { w with journal := w.journal.record d f })
  else
    let line := Value.list [.text name, .text d.verdict.word]
    Desk.lift (modify fun w => { w with told := line :: w.told })
    if name.startsWith "raise:" then throw (.raised "RuntimeError" (some (.text "sink down")))
    if name.startsWith "selfoff:" then modify fun desk => desk.unsubscribe name

/-- The pipeline of scripted functions. -/
def scriptedPipeline (i : IndicatorScript) (b : BuilderScript) : Pipeline String World where
  clock := do return (← get).clock
  indicator := i.compute
  builder := b.propose
  tell := tell
  newcomers := 0

/-! ### Runs -/

/-- A run over ticks: its frame, the frames around it, and the number of decisions after
which the consumer stops. -/
structure RunScript where
  frame : Except Fault Frame
  around : Except Fault Stack
  ticks : SourceScript Tick
  take : Option Int

/-- A run under way. -/
structure Runner where
  /-- The name of its source. -/
  source : String
  tag : Value
  script : SourceScript Tick
  take : Option Int
  stream : Stream
  context : Context
  phase : DrainPhase
  /-- Decisions and the depths at them, the latest first. -/
  decisions : List Value
  fault : Option Fault

namespace Runner

/-- The report on a run. -/
def reply (r : Runner) : Reply :=
  let decisions := ("decisions", Reply.value (.list r.decisions.reverse))
  match r.fault with
  | none => .record [decisions]
  | some e => .fault e [decisions]

/-- The report on a run that cannot begin. -/
def refused (e : Fault) : Reply := .fault e [("decisions", .list [])]

/-- Begins a run, the number of which is given. -/
def begin (p : Pipeline String World) (d : Desk String World) (n : Nat) (tag : Value)
    (s : RunScript) : Except Fault Runner := do
  let around ← s.around
  let stream := Stream.create (← s.frame)
  let name := "run " ++ toString n
  let (r, stream, context, phase, _) :=
    stream.enter (p.drain (s.ticks.source name tag)) ⟨n, around⟩ (.fresh, d)
  r
  return ⟨name, tag, s.ticks, s.take, stream, context, phase, [], none⟩

/-- The source of decisions of a run. -/
def drain (p : Pipeline String World) (r : Runner) :
    Source (DrainPhase × Desk String World) Decision :=
  p.drain (r.script.source r.source r.tag)

/-- Leaves a run, after a fault if there is one; a fault of leaving wins. -/
def leave (p : Pipeline String World) (r : Runner) (e : Option Fault) (d : Desk String World) :
    Runner × Desk String World :=
  let (left, stream, context, _, d) := r.stream.exit (r.drain p) r.context (r.phase, d)
  let fault :=
    match left with
    | .error e => some e
    | .ok _ => e
  ({ r with stream := stream, context := context, phase := .finished, fault := fault }, d)

/-- Goes on with a run until it waits for a computation or is left, which is told beside
it; `fuel` bounds the number of pulls. -/
def advance (p : Pipeline String World) :
    Nat → Runner → Desk String World → Runner × Desk String World × Bool
  | 0, r, d => (r, d, true)
  | fuel + 1, r, d =>
    let (x, stream, phase, d) := r.stream.next (r.drain p) r.context (r.phase, d)
    let r := { r with stream := stream, phase := phase }
    let left (e : Option Fault) :=
      let (r, d) := r.leave p e d
      (r, d, true)
    match x with
    | .error e => left (some e)
    | .ok .done => left none
    | .ok .later =>
      match phase with
      | .waiting .. => (r, d, false)
      | _ => advance p fuel r d
    | .ok (.item decision) =>
      let entry := Value.list [.record decision.toFields, .int r.context.stack.depth]
      let r := { r with decisions := entry :: r.decisions }
      if r.take.any (· == (r.decisions.length : Int)) then
        let (r, d) := r.leave p none d
        (r, d, true)
      else advance p fuel r d

/-- The number of the computation that a run waits for. -/
def job (r : Runner) : Nat :=
  match r.phase with
  | .waiting _ _ _ job => job
  | _ => 0

/-- A bound on the pulls of a run. -/
def pulls (r : Runner) : Nat :=
  2 * r.script.items.length + 2

/-- Goes on with some runs in order, and tells those that wait and those that were left. -/
def advanceAll (p : Pipeline String World) :
    List Runner → Desk String World → List Runner × List Runner × Desk String World
  | [], d => ([], [], d)
  | r :: rest, d =>
    let (r, d, ended) := r.advance p r.pulls d
    let (waiting, left, d) := advanceAll p rest d
    if ended then (waiting, r :: left, d) else (r :: waiting, left, d)

/-- Takes runs to their ends in turns; `fuel` bounds the number of turns. -/
def turns (p : Pipeline String World) :
    Nat → List Runner → Desk String World → List Runner × Desk String World
  | 0, live, d => (live, d)
  | fuel + 1, live, d =>
    let (waiting, left, d) := advanceAll p live d
    if waiting.isEmpty then (left, d)
    else
      let (more, d) := turns p fuel (waiting.mergeSort fun a b => a.job ≤ b.job) (p.work d)
      (left ++ more, d)

end Runner

/-- Takes some runs to their ends together.  A run that is cancelled cancels the whole. -/
def runTogether (p : Pipeline String World) (scripts : List (Value × RunScript))
    (d : Desk String World) : Except Fault (List Reply) × Desk String World :=
  let begun := scripts.zipIdx.map fun ((tag, s), n) => Runner.begin p d n tag s
  let live := begun.filterMap Except.toOption
  let fuel := live.foldl (fun n r => n + r.pulls) 1
  let d := { d with world := { d.world with sources := [] } }
  let (left, d) := Runner.turns p fuel live d
  let replies := begun.map fun
    | .error e => Runner.refused e
    | .ok r => (left.find? fun q => q.source == r.source).elim (.list []) Runner.reply
  match left.findSome? fun r => r.fault.filter fun e => !e.isOrdinary with
  | some e => (.error e, d)
  | none => (.ok replies, d)

/-! ### Steps -/

/-- One step on a pipeline. -/
inductive DrainStep where
  | run (s : RunScript)
  | together (ss : List RunScript)
  | tick (t : Except Fault Tick) (around : Except Fault Stack)
  | clock (now : Value)
  | subscribe (name : String)
  | unsubscribe (name : String)
  | openPosition (p : Except Fault OpenPosition)
  | closePosition (strategy exchange symbol : Value)
  | flush
  | report
  | info
  /-- A step that could not be set up. -/
  | idle (e : Fault)

/-- Whether a line is not after another one: the items are compared in order. -/
def linesInOrder : Value → Value → Bool
  | .list xs, .list ys => go xs ys
  | _, _ => true
where
  /-- Compares the items of two lines. -/
  go : List Value → List Value → Bool
    | [], _ => true
    | _ :: _, [] => false
    | .int a :: xs, .int b :: ys => a < b || (a == b && go xs ys)
    | x :: xs, y :: ys => x.plain < y.plain || (x.plain == y.plain && go xs ys)

/-- The world with its lines in order, whatever turns the runs took. -/
def World.sorted (w : World) : World :=
  let inOrder (lines : List Value) := (lines.mergeSort linesInOrder).reverse
  { w with
    log := inOrder w.log
    told := inOrder w.told
    trace := inOrder w.trace
    computed := inOrder w.computed }

namespace DrainStep

/-- Does one step: its result and the desk after it. -/
def perform (i : IndicatorScript) (p : Pipeline String World) (d : Desk String World) :
    DrainStep → Except Fault Reply × Desk String World
  | run s =>
    let (replies, d) := runTogether p [(.text "t", s)] d
    (replies.map fun rs => rs.head?.getD .nothing, d)
  | together ss =>
    let (replies, d) := runTogether p (ss.zipIdx.map fun (s, n) => (.text (toString n), s)) d
    (replies.map .list, { d with world := d.world.sorted })
  | tick t around =>
    match (do return (← t, ← around) : Except Fault (Tick × Stack)) with
    | .error e => (.error e, d)
    | .ok (t, around) =>
      let (r, d) := (p.processTick t).outcome around d
      ((r.mapError Fault.acrossTask).map fun x =>
        .value (Fields.entry (fun d => .record d.toFields) x), d)
  | clock now =>
    let d := { d with world := { d.world with clock := now } }
    ((clockMillis now).map fun n => .value (.int (d.cache.windowAt n)), d)
  | subscribe name => (.ok .nothing, d.subscribe name)
  | unsubscribe name => (.ok .nothing, d.unsubscribe name)
  | openPosition q =>
    match q with
    | .ok q => (.ok .nothing, { d with registry := d.registry.openPosition q })
    | .error e => (.error e, d)
  | closePosition a b c =>
    (.ok .nothing, { d with registry := d.registry.closePosition a.plain b.plain c.plain })
  | flush => (.ok .nothing, { d with cache := d.cache.flush })
  | report =>
    let j := d.world.journal
    (j.document.map fun s => .fields
      [("summary", .record (j.summary .null).toFields), ("json", .text s)], d)
  | info =>
    let timeframe := Value.text d.cache.timeframe.token
    (.ok (.value (.list [timeframe, timeframe, .int d.cache.bound,
      .list (d.registry.names.map .text), i.name])), d)
  | idle e => (.error e, d)

/-- The state after a step. -/
def state (d : Desk String World) : List (String × Reply) :=
  let w := d.world
  let keys := (d.cache.entries.map Entry.key).mergeSort fun a b => a ≤ b
  [("stack", .value (.list [Frame.empty.strategy])), ("keys", .texts keys),
    ("stats", CacheDesk.stats d.cache.stats), ("calls", .nat w.computed.length),
    ("cb", .value (.list w.told.reverse)), ("ticks", .value (.list w.log.reverse)),
    ("trace", .value (.list w.trace.reverse))]

/-- The desk after a list of steps, and the reports on them. -/
def runAll (i : IndicatorScript) (p : Pipeline String World) (d : Desk String World) :
    List DrainStep → Desk String World × List Reply
  | [] => (d, [])
  | s :: rest =>
    let (r, d) := s.perform i p d
    let reply := Reply.step r (state d)
    let w := { d.world with told := [], log := [], trace := [] }
    let (d, more) := runAll i p { d with world := w } rest
    (d, reply :: more)

/-- The report on a whole scenario. -/
def reportAll (i : IndicatorScript) (b : BuilderScript) (d : Desk String World)
    (steps : List DrainStep) : Reply :=
  let (d, replies) := runAll i (scriptedPipeline i b) d steps
  .record [("steps", .list replies), ("calls", .value (.list d.world.computed.reverse))]

end DrainStep

end TradeGate.Scenario
