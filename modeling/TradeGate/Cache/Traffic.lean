import TradeGate.Cache.Basic

/-!
# Callers and computations

Callers ask a cache for values, in any order and at any time.  A caller either gets a
stored value at once or waits for a computation.  When the computation ends, all its
waiting callers end with its outcome; a caller that is cancelled before leaves without
any effect on the others.  `Traffic.step` takes the cache, the running computations and
the waiting callers through one event and tells which callers ended.
-/

namespace TradeGate

/-- A running computation, with the key and the window that it was started for. -/
structure Flight (κ : Type) where
  job : Nat
  key : κ
  window : Int
deriving Repr, DecidableEq

/-- A caller who waits for a computation. -/
structure Waiter (γ κ : Type) where
  caller : γ
  key : κ
  window : Int
  job : Nat
deriving Repr, DecidableEq

/-- A caller who ended, with the key and the window of the call. -/
structure Ended (γ κ α : Type) where
  caller : γ
  key : κ
  window : Int
  outcome : Outcome α
deriving Repr

/-- What the caller gets: the value, or a fault.  The failure of a computation is told
with the key and the window of the call. -/
def Ended.result {γ κ α : Type} (form : κ → Value) (e : Ended γ κ α) : Except Fault α :=
  match e.outcome with
  | .value v => .ok v
  | .failure f => .error (.computationFailed (form e.key) (.int e.window) f.said (some f))
  | .cancelled => .error .cancelled

/-- A cache with the running computations and the waiting callers, in order of start and
arrival. -/
structure Traffic (γ κ α : Type) where
  cache : Cache κ α
  flights : List (Flight κ)
  waiters : List (Waiter γ κ)

/-- What can happen.  A call carries its key and the time in milliseconds. -/
inductive CacheEvent (γ κ α : Type) where
  | call (caller : γ) (key : κ) (now : Int)
  | finish (job : Nat) (outcome : Outcome α)
  | cancel (caller : γ)
  | clear (key : κ)
  | flush

namespace Traffic

variable {γ κ α : Type} [BEq γ] [BEq κ]

/-- A cache that nobody has called yet. -/
def create (timeframe : Timeframe) (bound : Int) : Traffic γ κ α :=
  ⟨.create timeframe bound, [], []⟩

/-- A call at a time. -/
def call (t : Traffic γ κ α) (caller : γ) (key : κ) (now : Int) :
    Traffic γ κ α × List (Ended γ κ α) :=
  let window := t.cache.windowAt now
  match t.cache.request key window with
  | (.hit v, c) => ({ t with cache := c }, [⟨caller, key, window, .value v⟩])
  | (.join job, c) =>
    ({ t with cache := c, waiters := t.waiters ++ [⟨caller, key, window, job⟩] }, [])
  | (.start job, c) =>
    ({ cache := c
       flights := t.flights ++ [⟨job, key, window⟩]
       waiters := t.waiters ++ [⟨caller, key, window, job⟩] }, [])

/-- Whether a computation is running. -/
def isRunning (t : Traffic γ κ α) (job : Nat) : Bool :=
  t.flights.any fun f => f.job == job

/-- The end of a running computation. -/
def finish (t : Traffic γ κ α) (job : Nat) (o : Outcome α) :
    Traffic γ κ α × List (Ended γ κ α) :=
  if t.isRunning job then
    ({ cache := t.cache.settle job o
       flights := t.flights.filter fun f => f.job != job
       waiters := t.waiters.filter fun w => w.job != job },
      (t.waiters.filter fun w => w.job == job).map fun w => ⟨w.caller, w.key, w.window, o⟩)
  else (t, [])

/-- The cancellation of a waiting caller. -/
def cancel (t : Traffic γ κ α) (caller : γ) : Traffic γ κ α × List (Ended γ κ α) :=
  ({ t with waiters := t.waiters.filter fun w => !(w.caller == caller) },
    (t.waiters.filter fun w => w.caller == caller).map fun w =>
      ⟨w.caller, w.key, w.window, .cancelled⟩)

/-- The state after an event, and the callers who ended with it. -/
def step (t : Traffic γ κ α) : CacheEvent γ κ α → Traffic γ κ α × List (Ended γ κ α)
  | .call caller key now => t.call caller key now
  | .finish job o => t.finish job o
  | .cancel caller => t.cancel caller
  | .clear key => ({ t with cache := t.cache.clear key }, [])
  | .flush => ({ t with cache := t.cache.flush }, [])

/-- The state after a list of events, and the callers who ended, in order. -/
def run (t : Traffic γ κ α) : List (CacheEvent γ κ α) → Traffic γ κ α × List (Ended γ κ α)
  | [] => (t, [])
  | e :: es =>
    let (t, ended) := t.step e
    let (t, later) := t.run es
    (t, ended ++ later)

@[simp]
theorem run_nil
    (t : Traffic γ κ α) :
  t.run [] = (t, [])
  := rfl

omit [BEq γ] [BEq κ] in
/-- The end of a computation leaves none of its callers waiting. -/
theorem waiters_finish
    {t : Traffic γ κ α} {job : Nat} (h : t.isRunning job = true) (o : Outcome α) :
  ∀ w ∈ (t.finish job o).1.waiters, w.job ≠ job
  := by
  simp [finish, h]

omit [BEq κ] in
/-- A cancelled caller changes neither the cache nor the running computations. -/
theorem cache_cancel
    (t : Traffic γ κ α) (caller : γ) :
  (t.cancel caller).1.cache = t.cache ∧ (t.cancel caller).1.flights = t.flights
  := ⟨rfl, rfl⟩

end Traffic

end TradeGate
