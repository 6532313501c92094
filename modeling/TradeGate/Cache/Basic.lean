import TradeGate.Timeframe

/-!
# The interval cache

A cache keeps one entry per key: the window that it is for, the computation that was
started for it, and the value once the computation has succeeded.  Computations are
numbered in the order of their start, and the entries stand in that order.  A request in
the window of an entry takes its value or joins its computation; any other request
starts a new computation, whose entry replaces the old one.  The end of a computation
changes only the entry that was made for it, if that entry is still there, and then
drops the oldest values that exceed the bound.
-/

namespace TradeGate

/-- An entry of the cache: `value` is absent while the computation `job` runs. -/
structure Entry (κ α : Type) where
  key : κ
  window : Int
  job : Nat
  value : Option α
deriving Repr, DecidableEq

/-- Whether the computation of an entry still runs. -/
def Entry.inFlight {κ α : Type} (e : Entry κ α) : Bool :=
  e.value.isNone

/-- The counters of a cache. -/
structure CacheStats where
  hits : Nat
  misses : Nat
  joins : Nat
  failures : Nat
deriving Repr, DecidableEq, Inhabited

/-- The state of a cache.  A bound that is not positive is no bound. -/
structure Cache (κ α : Type) where
  timeframe : Timeframe
  bound : Int
  entries : List (Entry κ α)
  /-- The number of computations started so far. -/
  started : Nat
  stats : CacheStats
deriving Repr

/-- How a request is served: by a stored value, by the running computation of a number,
or by a new computation of a number. -/
inductive Served (α : Type) where
  | hit (v : α)
  | join (job : Nat)
  | start (job : Nat)
deriving Repr, DecidableEq

/-- How a computation ends. -/
inductive Outcome (α : Type) where
  | value (v : α)
  | failure (e : Fault)
  | cancelled
deriving Repr

/-- The end of a computation that runs as a task of its own. -/
def Outcome.ofResult {α : Type} : Except Fault α → Outcome α
  | .ok v => .value v
  | .error .cancelled => .cancelled
  | .error e => .failure e.acrossTask

namespace Cache

variable {κ α : Type}

/-- The cache without entries. -/
def create (timeframe : Timeframe) (bound : Int) : Cache κ α :=
  ⟨timeframe, bound, [], 0, ⟨0, 0, 0, 0⟩⟩

/-- The number of entries. -/
def size (c : Cache κ α) : Nat :=
  c.entries.length

/-- The begin of the window of a time in milliseconds. -/
def windowAt (c : Cache κ α) (now : Int) : Int :=
  c.timeframe.window now

/-- Drops every entry. -/
def flush (c : Cache κ α) : Cache κ α :=
  { c with entries := [] }

/-- The entries of running computations are never evicted; of the others the first
`excess` go. -/
def dropStored : Nat → List (Entry κ α) → List (Entry κ α)
  | 0, es => es
  | _, [] => []
  | excess + 1, e :: es =>
    if e.inFlight then e :: dropStored (excess + 1) es else dropStored excess es

/-- The entries within a bound. -/
def evict (bound : Int) (es : List (Entry κ α)) : List (Entry κ α) :=
  if bound ≤ 0 then es else dropStored (es.length - bound.toNat) es

/-- Whether the entry of a computation is still in the cache. -/
def isCurrent (c : Cache κ α) (job : Nat) : Bool :=
  c.entries.any fun e => e.job == job

/-- The cache without the entry of a computation. -/
def dropJob (c : Cache κ α) (job : Nat) : Cache κ α :=
  { c with entries := c.entries.filter fun e => e.job != job }

/-- The cache with the value of a computation in its entry. -/
def store (c : Cache κ α) (job : Nat) (v : α) : Cache κ α :=
  { c with
    entries := c.entries.map fun e => if e.job = job then { e with value := some v } else e }

/-- The cache after a computation has ended. -/
def settle (c : Cache κ α) (job : Nat) : Outcome α → Cache κ α
  | .cancelled => c.dropJob job
  | .failure _ =>
    { c.dropJob job with stats := { c.stats with failures := c.stats.failures + 1 } }
  | .value v =>
    if c.isCurrent job then
      { c.store job v with entries := evict c.bound (c.store job v).entries }
    else c

variable [BEq κ]

/-- The entry of a key. -/
def find? (c : Cache κ α) (key : κ) : Option (Entry κ α) :=
  c.entries.find? fun e => e.key == key

/-- The entries of other keys. -/
def others (c : Cache κ α) (key : κ) : List (Entry κ α) :=
  c.entries.filter fun e => !(e.key == key)

/-- Drops the entry of a key. -/
def clear (c : Cache κ α) (key : κ) : Cache κ α :=
  { c with entries := c.others key }

/-- Starts a computation for a key in a window. -/
def start (c : Cache κ α) (key : κ) (window : Int) : Nat × Cache κ α :=
  let job := c.started + 1
  (job, { c with
    entries := c.others key ++ [⟨key, window, job, none⟩]
    started := job
    stats := { c.stats with misses := c.stats.misses + 1 } })

/-- Serves a request for a key in a window. -/
def request (c : Cache κ α) (key : κ) (window : Int) : Served α × Cache κ α :=
  match c.find? key with
  | some e =>
    if e.window = window then
      match e.value with
      | some v => (.hit v, { c with stats := { c.stats with hits := c.stats.hits + 1 } })
      | none => (.join e.job, { c with stats := { c.stats with joins := c.stats.joins + 1 } })
    else
      let (job, c) := c.start key window
      (.start job, c)
  | none =>
    let (job, c) := c.start key window
    (.start job, c)

end Cache

/-! ### Small facts -/

namespace Cache

variable {κ α : Type}

@[simp]
theorem entries_flush
    (c : Cache κ α) :
  c.flush.entries = []
  := rfl

@[simp]
theorem dropStored_zero
    (es : List (Entry κ α)) :
  dropStored 0 es = es
  := by
  cases es <;> rfl

/-- Without a bound nothing is evicted. -/
theorem evict_of_nonpos
    {bound : Int} (h : bound ≤ 0) (es : List (Entry κ α)) :
  evict bound es = es
  := by
  simp [evict, h]

/-- The end of a computation whose entry is gone changes no entry. -/
theorem entries_settle_of_not_current
    {c : Cache κ α} {job : Nat} (h : c.isCurrent job = false) (o : Outcome α) :
  (c.settle job o).entries = c.entries
  := by
  have hall : ∀ e ∈ c.entries, (e.job != job) = true := by
    intro e he
    have := List.any_eq_false.1 h e he
    simpa [bne] using this
  cases o <;> simp [settle, dropJob, h, List.filter_eq_self.2 hall]

end Cache

end TradeGate
