import TradeGate.Cache.Basic
import TradeGate.Clock
import TradeGate.Market.Tick
import TradeGate.Risk.Registry

/-!
# The admission of ticks

For each tick the pipeline takes the indicators of its symbol from a cache that is keyed
by the current frame, lets a builder propose a signal, has the registry decide on it,
and tells the decision to the subscribers.  The functions that it calls are injected; its
own state is the cache, the registry, the subscribers and the queue of computations.
-/

namespace TradeGate

/-- A computation of indicators that is due: its number in the cache, the symbol, and
the stack of the caller who started it. -/
structure Due where
  job : Nat
  symbol : String
  stack : Stack
deriving Repr

/-- The state of a pipeline: `ι` are the names of subscribers, `σ` is the state that the
injected functions act on. -/
structure Desk (ι σ : Type) where
  registry : Registry σ
  cache : Cache String Value
  /-- The subscribers in the order of their subscription. -/
  subscribers : List ι
  /-- The computations that are due, in the order of their start. -/
  queue : List Due
  /-- The ends of computations by number, the latest first. -/
  outcomes : List (Nat × Outcome Value)
  world : σ

/-- The injected functions. -/
structure Pipeline (ι σ : Type) where
  /-- The time in seconds. -/
  clock : Act σ Value
  /-- The indicators of a symbol. -/
  indicator : String → Act σ Value
  /-- The signal that a tick proposes under its indicators. -/
  builder : Tick → Value → Act σ (Option Signal)
  /-- Tells a subscriber a decision. -/
  tell : ι → Decision → Act (Desk ι σ) Unit
  /-- The number of subscriptions that subscribers may add while they are told. -/
  newcomers : Nat

namespace Desk

variable {ι σ : Type}

/-- A desk without history. -/
def create (registry : Registry σ) (timeframe : Timeframe) (bound : Int) (world : σ) :
    Desk ι σ :=
  ⟨registry, .create timeframe bound, [], [], [], world⟩

/-- An action of the injected functions as an action on the desk. -/
def lift {α : Type} (a : Act σ α) : Act (Desk ι σ) α :=
  a.zoom Desk.world fun w d => { d with world := w }

/-- The end of a computation, if it has ended. -/
def outcome? (d : Desk ι σ) (job : Nat) : Option (Outcome Value) :=
  (d.outcomes.find? fun o => o.1 == job).map Prod.snd

variable [DecidableEq ι]

/-- Subscribes a name, unless it is subscribed already. -/
def subscribe (d : Desk ι σ) (s : ι) : Desk ι σ :=
  if s ∈ d.subscribers then d else { d with subscribers := d.subscribers ++ [s] }

/-- Removes the subscription of a name. -/
def unsubscribe (d : Desk ι σ) (s : ι) : Desk ι σ :=
  { d with subscribers := d.subscribers.erase s }

/-- No name is subscribed twice. -/
theorem nodup_subscribe
    {d : Desk ι σ} (h : d.subscribers.Nodup) (s : ι) :
  (d.subscribe s).subscribers.Nodup
  := by
  unfold subscribe
  split
  · exact h
  · next hs =>
    simp only [List.nodup_append, h, List.nodup_cons, List.not_mem_nil, not_false_eq_true,
      List.nodup_nil, and_self, List.mem_singleton, true_and]
    rintro a ha b rfl rfl
    exact hs ha

end Desk

namespace Pipeline

variable {ι σ : Type} (p : Pipeline ι σ)

/-- What the cache has for a tick: the indicators, or the number of the computation to
wait for. -/
inductive Answered where
  | ready (indicators : Value)
  | waiting (key : String) (window : Int) (job : Nat)
deriving Repr

/-- Asks the cache for the indicators of a symbol under the current frame. -/
def ask (symbol : String) : Act (Desk ι σ) Answered := do
  let stack ← Act.stack
  let key := stack.current.cacheKey (.text symbol)
  let now ← Act.ofExcept (clockMillis (← Desk.lift p.clock))
  let d ← get
  let window := d.cache.windowAt now
  match d.cache.request key window with
  | (.hit v, c) => do
    set { d with cache := c }
    return .ready v
  | (.join job, c) => do
    set { d with cache := c }
    return .waiting key window job
  | (.start job, c) => do
    set { d with cache := c, queue := d.queue ++ [Due.mk job symbol stack] }
    return .waiting key window job

/-- Runs a computation that is due and settles it. -/
def compute (due : Due) (d : Desk ι σ) : Desk ι σ :=
  let (r, w) := (p.indicator due.symbol).outcome due.stack d.world
  let o := Outcome.ofResult r
  { d with
    cache := d.cache.settle due.job o
    outcomes := (due.job, o) :: d.outcomes
    world := w }

/-- Runs all computations that are due, in order. -/
def work (d : Desk ι σ) : Desk ι σ :=
  d.queue.foldl (fun d due => p.compute due d) { d with queue := [] }

/-- Tells a decision to the subscribers from position `k` on.  The subscribers are looked
up anew at every position, and an ordinary fault of one does not keep it from the next;
`fuel` bounds the number of positions. -/
def notifyFrom (d : Decision) : Nat → Nat → Act (Desk ι σ) Unit
  | 0, _ => pure ()
  | fuel + 1, k => do
    match (← get).subscribers[k]? with
    | none => pure ()
    | some s => do
      (p.tell s d).absorb
      notifyFrom d fuel (k + 1)

/-- Tells a decision to the subscribers. -/
def notify (d : Decision) : Act (Desk ι σ) Unit := do
  p.notifyFrom d ((← get).subscribers.length + p.newcomers) 0

/-- Finishes a tick whose indicators are there: the decision, or nothing where no signal
is proposed. -/
def conclude (tick : Tick) (indicators : Value) : Act (Desk ι σ) (Option Decision) := do
  match ← Desk.lift (p.builder tick indicators) with
  | none => return none
  | some s => do
    let d ← Desk.lift ((← get).registry.evaluate s (.decimal tick.price) (.instant tick.timestamp))
    p.notify d
    return some d

/-- Finishes a tick that waited for a computation. -/
def receive (tick : Tick) (key : String) (window : Int) (o : Outcome Value) :
    Act (Desk ι σ) (Option Decision) :=
  match o with
  | .value v => p.conclude tick v
  | .failure e => throw (.computationFailed (.text key) (.int window) e.said (some e))
  | .cancelled => throw .cancelled

/-- Admits one tick while no other is under way: a computation that it waits for is run
at once. -/
def processTick (tick : Tick) : Act (Desk ι σ) (Option Decision) := do
  match ← p.ask tick.symbol with
  | .ready v => p.conclude tick v
  | .waiting key window job => do
    modify p.work
    match (← get).outcome? job with
    | some o => p.receive tick key window o
    | none => return none

end Pipeline

end TradeGate
