import TradeGate.Cache.Memo
import TradeGate.Scenario.Script

/-!
# Scenarios of a cache

Callers call a cached function, computations are released or end at once, and callers are
cancelled.  Every step is reported with the callers that ended and the state of the
cache.
-/

namespace TradeGate.Scenario

/-- What the cached function is keyed by: all arguments, the first one as it is, or the
frame and the symbol. -/
inductive KeyKind where
  | whole
  | first
  | frame
deriving DecidableEq

/-- The key of a call under a frame.  The first argument may be given by its name. -/
def KeyKind.key (k : KeyKind) (f : Frame) (c : Call) : Except Fault Value :=
  match k with
  | whole => .ok (.text c.key)
  | first =>
    match c.args, c.named? "s" with
    | v :: _, none => .ok v
    | [], some v => .ok v
    | _, _ => .error (.wrongKind "one first argument" "none or two")
  | frame =>
    match c.args, c.named with
    | [s], [] => .ok (.text (f.cacheKey s))
    | [], [("symbol", s)] => .ok (.text (f.cacheKey s))
    | _, _ => .error (.wrongKind "one symbol" "others")

/-- A function that is keyed in this way, with a clock that shows a reading. -/
def KeyKind.memo (k : KeyKind) : Memo Value where
  key c := do Act.ofExcept (k.key (← Act.stack).current c)
  clock := get

/-- How the computations of a function end: by themselves with scripted results, or when
they are released. -/
inductive Computing where
  | scripted (results : List (Scripted Value))
  | gated

/-- A call by a named caller under frames. -/
structure Calling where
  caller : String
  call : Call
  frames : Except Fault Stack

/-- One step on a cache. -/
inductive CacheStep where
  | calls (cs : List Calling)
  | release (job : Nat) (r : Scripted Value)
  | cancel (caller : String)
  | cancelComputation (key : Value)
  | clock (now : Value)
  | clear (c : Calling)
  | flush
  | has (key : Value)
  | window
  | info

/-- A cache and what surrounds it: the clock, the computations in the order of their
start, the latest first, and the releases so far. -/
structure CacheDesk where
  name : String
  keyKind : KeyKind
  computing : Computing
  clock : Value
  traffic : Traffic String Value Value
  computations : List Value
  released : List (Nat × Scripted Value)

namespace CacheDesk

/-- The report on callers that ended. -/
def endings (es : List (Ended String Value Value)) : List (String × Reply) :=
  es.map fun e =>
    (e.caller, .ofResult (fun v => .record [("r", .value v)]) (e.result id))

/-- What a step gives: its result, the desk after it, and the callers that ended. -/
abbrev Stepped := Except Fault Reply × CacheDesk × List (String × Reply)

/-- Takes the traffic through one event. -/
def event (d : CacheDesk) (e : CacheEvent String Value Value) :
    CacheDesk × List (String × Reply) :=
  let (t, ended) := d.traffic.step e
  ({ d with traffic := t }, endings ended)

/-- What the callers share with the computations, and the clock. -/
def shared (d : CacheDesk) : Memo.State Value String Value :=
  ⟨d.traffic, d.clock⟩

/-- One caller's arrival. -/
def arrive (d : CacheDesk) (c : Calling) : CacheDesk × List (String × Reply) :=
  match c.frames with
  | .error e => (d, [(c.caller, .fault e [])])
  | .ok frames =>
    match (d.keyKind.memo.run c.caller c.call).outcome frames d.shared with
    | (.error e, _) => (d, [(c.caller, .fault e [])])
    | (.ok ended, after) =>
      let line := .list [.list c.call.args, .record c.call.named, frames.current.strategy]
      let more := if d.traffic.cache.started < after.traffic.cache.started then [line] else []
      ({ d with traffic := after.traffic, computations := more ++ d.computations }, endings ended)

def arriveAll (d : CacheDesk) : List Calling → CacheDesk × List (String × Reply)
  | [] => (d, [])
  | c :: rest =>
    let (d, ended) := d.arrive c
    let (d, more) := d.arriveAll rest
    (d, ended ++ more)

/-- The outcome that a computation has at once, nothing where it waits. -/
def immediate (d : CacheDesk) (job : Nat) : Option (Scripted Value) :=
  match d.computing with
  | .scripted results => some (results[job - 1]?.getD (.ok (.int job)))
  | .gated => (d.released.find? fun r => r.1 == job).map Prod.snd

/-- Ends the computations that do not wait, in order. -/
def finishAll (d : CacheDesk) : List Nat → CacheDesk × List (String × Reply)
  | [] => (d, [])
  | job :: rest =>
    match d.immediate job with
    | none => d.finishAll rest
    | some r =>
      let (d, ended) := d.event (.finish job (.ofResult r))
      let (d, more) := d.finishAll rest
      (d, ended ++ more)

/-- All callers arrive before any computation runs. -/
def callAll (d : CacheDesk) (cs : List Calling) : Stepped :=
  let before := d.traffic.cache.started
  let (d, ended) := d.arriveAll cs
  let jobs := (List.range (d.traffic.cache.started - before)).map (· + (before + 1))
  let (d, more) := d.finishAll jobs
  (.ok .nothing, d, ended ++ more)

/-- The report on an entry. -/
def entry (e : Entry Value Value) : Value :=
  .list [e.key, .int e.window, .bool e.inFlight, e.value.getD .null]

/-- Does one step. -/
def step (d : CacheDesk) : CacheStep → Stepped
  | .calls cs => d.callAll cs
  | .release job r =>
    let (d, ended) := d.event (.finish job (.ofResult r))
    (.ok .nothing, { d with released := (job, r) :: d.released }, ended)
  | .cancel caller =>
    let (d, ended) := d.event (.cancel caller)
    (.ok .nothing, d, ended)
  | .cancelComputation key =>
    match usableKey key with
    | .error e => (.error e, d, [])
    | .ok k =>
      match d.traffic.cache.find? k with
      | some e =>
        if e.inFlight then
          let (d, ended) := d.event (.finish e.job .cancelled)
          (.ok .nothing, d, ended)
        else (.error (.noAttribute "NoneType" "cancel"), d, [])
      | none => (.error (.noAttribute "NoneType" "task"), d, [])
  | .clock now => (.ok .nothing, { d with clock := now }, [])
  | .clear c =>
    match c.frames with
    | .error e => (.error e, d, [])
    | .ok frames =>
      let (x, after) := (d.keyKind.memo.clear c.call).outcome frames d.shared
      (x.map fun _ => .nothing, { d with traffic := after.traffic }, [])
  | .flush =>
    let (d, ended) := d.event .flush
    (.ok .nothing, d, ended)
  | .has key =>
    ((usableKey key).map fun k =>
      let e := d.traffic.cache.find? k
      .value (.list [.bool e.isSome, (e.map entry).getD .null]), d, [])
  | .window =>
    ((clockMillis d.clock).map fun n => .value (.int (d.traffic.cache.windowAt n)), d, [])
  | .info =>
    let c := d.traffic.cache
    (.ok (.value (.list [.text d.name, .text c.timeframe.token, .int c.timeframe.millis,
      .int c.bound])), d, [])

/-- The counters of a cache. -/
def stats (s : CacheStats) : Reply :=
  .list [.nat s.hits, .nat s.misses, .nat s.joins, .nat s.failures]

/-- The reports on a list of steps, and the desk after them. -/
def runAll (d : CacheDesk) : List CacheStep → CacheDesk × List Reply
  | [] => (d, [])
  | s :: rest =>
    let (r, d, done) := d.step s
    let c := d.traffic.cache
    let reply := Reply.step r [("done", .record done), ("calls", .nat c.started),
      ("len", .nat c.size), ("entries", .value (.list (c.entries.map entry))),
      ("stats", stats c.stats)]
    let (d, more) := d.runAll rest
    (d, reply :: more)

/-- The report on a whole scenario. -/
def report (d : CacheDesk) (steps : List CacheStep) : Reply :=
  let (d, replies) := d.runAll steps
  .record [("steps", .list replies), ("calls", .value (.list d.computations.reverse))]

end CacheDesk

end TradeGate.Scenario
