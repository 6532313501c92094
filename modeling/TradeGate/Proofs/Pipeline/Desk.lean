import TradeGate.Pipeline.Basic
import TradeGate.Proofs.Cache.Entries

/-!
# Work at a desk

A tick that asks for its indicators reads the clock, then the cache serves it: by an entry
for its key and window, or by a new computation, which is due from then on.  Whatever else
happens at a desk spares the computations: the due ones stay due, those that have ended stay
ended, and the cache may only lose entries.
-/

namespace TradeGate

variable {ι σ : Type}

/-- The key under which the indicators of a symbol are kept. -/
def Stack.keyOf (stack : Stack) (symbol : String) : String :=
  stack.current.cacheKey (.text symbol)

namespace Desk

@[simp]
theorem outcome_lift
    {α : Type} (a : Act σ α) (stack : Stack) (d : Desk ι σ) :
  (lift a).outcome stack d
    = ((a.outcome stack d.world).1, { d with world := (a.outcome stack d.world).2 })
  := rfl

/-! ### Requests -/

/-- Serves a request for the indicators of a symbol at a time.  A computation that starts
is due, under the stack of the request. -/
def serve (d : Desk ι σ) (stack : Stack) (symbol : String) (now : Int) :
    Served Value × Desk ι σ :=
  match d.cache.request (stack.keyOf symbol) (d.cache.windowAt now) with
  | (.start job, c) =>
    (.start job, { d with cache := c, queue := d.queue ++ [⟨job, symbol, stack⟩] })
  | (s, c) => (s, { d with cache := c })

/-- The computation that serves a request for a key in a window. -/
def jobFor (d : Desk ι σ) (key : String) (window : Int) : Nat :=
  match d.cache.find? key with
  | some e => if e.window = window then e.job else d.cache.started + 1
  | none => d.cache.started + 1

/-- A request in the window of its entry is served by the computation of that entry. -/
theorem jobFor_of_find?
    {d : Desk ι σ} {key : String} {window : Int} {e : Entry String Value}
    (he : d.cache.find? key = some e) (hw : e.window = window) :
  d.jobFor key window = e.job
  := by
  simp [jobFor, he, hw]

/-- A request in the window of an entry with a value is served by that value. -/
theorem serve_of_find?
    {d : Desk ι σ} {stack : Stack} {symbol : String} {now : Int} {e : Entry String Value}
    {x : Value} (he : d.cache.find? (stack.keyOf symbol) = some e)
    (hw : e.window = d.cache.windowAt now) (hx : e.value = some x) :
  (d.serve stack symbol now).1 = .hit x
  := by
  simp [serve, Cache.request, he, hw, hx]

/-- How a request is served: by the value of an entry for its key and window, by the
running computation of that entry, or by a computation that starts. -/
theorem serve_cases
    (d : Desk ι σ) (stack : Stack) (symbol : String) (now : Int) :
  (∃ e ∈ d.cache.entries, ∃ v stats, e.key = stack.keyOf symbol
      ∧ e.window = d.cache.windowAt now ∧ e.value = some v
      ∧ d.jobFor (stack.keyOf symbol) (d.cache.windowAt now) = e.job
      ∧ d.serve stack symbol now = (.hit v, { d with cache := { d.cache with stats := stats } }))
    ∨ (∃ e ∈ d.cache.entries, ∃ stats, e.key = stack.keyOf symbol
      ∧ e.window = d.cache.windowAt now ∧ e.value = none
      ∧ d.jobFor (stack.keyOf symbol) (d.cache.windowAt now) = e.job
      ∧ d.serve stack symbol now
        = (.join e.job, { d with cache := { d.cache with stats := stats } }))
    ∨ (d.jobFor (stack.keyOf symbol) (d.cache.windowAt now) = d.cache.started + 1
      ∧ d.serve stack symbol now
        = (.start (d.cache.started + 1), { d with
            cache := (d.cache.start (stack.keyOf symbol) (d.cache.windowAt now)).2
            queue := d.queue ++ [⟨d.cache.started + 1, symbol, stack⟩] }))
  := by
  obtain ⟨e, v, he, hw, hv, hr⟩ | ⟨e, he, hw, hv, hr⟩ | ⟨hother, hr⟩ :=
    d.cache.request_cases (stack.keyOf symbol) (d.cache.windowAt now)
  · left
    use e, Cache.mem_of_find? he, v, { d.cache.stats with hits := d.cache.stats.hits + 1 }
    use by simpa using Cache.key_of_find? he, hw, hv
    use jobFor_of_find? he hw
    rw [serve, hr]
  · right; left
    use e, Cache.mem_of_find? he, { d.cache.stats with joins := d.cache.stats.joins + 1 }
    use by simpa using Cache.key_of_find? he, hw, hv
    use jobFor_of_find? he hw
    rw [serve, hr]
  · right; right
    constructor
    · unfold jobFor
      split
      next e he => simp [hother e he]
      next => rfl
    · rw [serve, hr]

@[simp]
theorem timeframe_serve
    (d : Desk ι σ) (stack : Stack) (symbol : String) (now : Int) :
  (d.serve stack symbol now).2.cache.timeframe = d.cache.timeframe
  := by
  obtain ⟨e, -, v, stats, -, -, -, -, hserve⟩ | ⟨e, -, stats, -, -, -, -, hserve⟩ | ⟨-, hserve⟩ :=
    d.serve_cases stack symbol now
  · rw [hserve]
  · rw [hserve]
  · rw [hserve]
    rfl

/-- What is due stays due while a request is served, and a computation that starts is added. -/
theorem queue_serve
    (d : Desk ι σ) (stack : Stack) (symbol : String) (now : Int) :
  (d.serve stack symbol now).2.queue = d.queue
    ∨ (d.serve stack symbol now).2.queue
      = d.queue ++ [⟨d.cache.started + 1, symbol, stack⟩]
  := by
  obtain ⟨e, -, v, stats, -, -, -, -, hserve⟩ | ⟨e, -, stats, -, -, -, -, hserve⟩ | ⟨-, hserve⟩ :=
    d.serve_cases stack symbol now
  · left
    rw [hserve]
  · left
    rw [hserve]
  · right
    rw [hserve]

/-! ### Sparing the computations -/

/-- What happens between two states of a desk leaves computations alone: the cache may only
lose entries. -/
structure Spares (d d' : Desk ι σ) : Prop where
  queue : d'.queue = d.queue
  outcomes : d'.outcomes = d.outcomes
  entries : ∀ e ∈ d'.cache.entries, e ∈ d.cache.entries
  started : d'.cache.started = d.cache.started
  timeframe : d'.cache.timeframe = d.cache.timeframe

@[refl]
theorem Spares.refl
    (d : Desk ι σ) :
  d.Spares d
  := ⟨rfl, rfl, fun _ he => he, rfl, rfl⟩

theorem Spares.trans
    {d d' d'' : Desk ι σ} (h : d.Spares d') (h' : d'.Spares d'') :
  d.Spares d''
  where
  queue := h'.queue.trans h.queue
  outcomes := h'.outcomes.trans h.outcomes
  entries e he := h.entries e (h'.entries e he)
  started := h'.started.trans h.started
  timeframe := h'.timeframe.trans h.timeframe

/-- A desk whose state other than the computations is changed. -/
theorem spares_with
    (d : Desk ι σ) (registry : Registry σ) (subscribers : List ι) (world : σ) :
  d.Spares { d with registry := registry, subscribers := subscribers, world := world }
  := ⟨rfl, rfl, fun _ he => he, rfl, rfl⟩

theorem spares_clear
    (d : Desk ι σ) (key : String) :
  d.Spares { d with cache := d.cache.clear key }
  := ⟨rfl, rfl, fun _ he => (Cache.mem_others.mp he).1, rfl, rfl⟩

theorem spares_flush
    (d : Desk ι σ) :
  d.Spares { d with cache := d.cache.flush }
  where
  queue := rfl
  outcomes := rfl
  entries := by
    rintro e ⟨⟩
  started := rfl
  timeframe := rfl

end Desk

/-- What an action changes does not depend on whether its faults are absorbed. -/
theorem Act.snd_outcome_absorb
    (a : Act σ Unit) (stack : Stack) (s : σ) :
  (a.absorb.outcome stack s).2 = (a.outcome stack s).2
  := by
  rw [outcome_absorb]
  rcases a.outcome stack s with ⟨e | x, s'⟩ <;> rfl

/-- An action that spares the computations of a desk. -/
def Act.Spares {α : Type} (a : Act (Desk ι σ) α) : Prop :=
  ∀ (stack : Stack) (d : Desk ι σ), d.Spares (a.outcome stack d).2

/-- Looking at a desk spares its computations. -/
theorem Act.spares_get :
  (get : Act (Desk ι σ) (Desk ι σ)).Spares
  := fun _ d => .refl d

theorem Act.spares_pure
    {α : Type} (a : α) :
  (pure a : Act (Desk ι σ) α).Spares
  := fun _ d => .refl d

theorem Act.spares_throw
    {α : Type} (e : Fault) :
  (throw e : Act (Desk ι σ) α).Spares
  := fun _ d => .refl d

theorem Act.Spares.bind
    {α β : Type} {a : Act (Desk ι σ) α} {f : α → Act (Desk ι σ) β} (ha : a.Spares)
    (hf : ∀ x, (f x).Spares) :
  (a >>= f).Spares
  := by
  intro stack d
  rw [outcome_bind]
  have h := ha stack d
  rcases hrun : a.outcome stack d with ⟨e | x, d'⟩
  · rwa [hrun] at h
  · rw [hrun] at h
    apply h.trans (hf x stack d')

theorem Desk.lift_spares
    {α : Type} (a : Act σ α) :
  (lift a : Act (Desk ι σ) α).Spares
  := fun stack d => d.spares_with d.registry d.subscribers (a.outcome stack d.world).2

theorem Act.Spares.absorb
    {a : Act (Desk ι σ) Unit} (ha : a.Spares) :
  a.absorb.Spares
  := by
  intro stack d
  rw [snd_outcome_absorb]
  apply ha

namespace Pipeline

variable (p : Pipeline ι σ)

/-! ### Asking -/

/-- Reads the clock in milliseconds. -/
def reading : Act (Desk ι σ) Int := do
  Act.ofExcept (clockMillis (← Desk.lift p.clock))

theorem outcome_reading
    (stack : Stack) (d : Desk ι σ) :
  p.reading.outcome stack d
    = ((p.clock.outcome stack d.world).1.bind clockMillis,
        { d with world := (p.clock.outcome stack d.world).2 })
  := by
  rw [reading, Act.outcome_bind, Desk.outcome_lift]
  rcases p.clock.outcome stack d.world with ⟨e | x, w⟩
  · rfl
  · simp [Except.bind]

theorem reading_spares :
  (p.reading : Act (Desk ι σ) Int).Spares
  := by
  intro stack d
  rw [outcome_reading]
  apply d.spares_with

/-- What the cache has for a tick that is served. -/
def Answered.ofServed (key : String) (window : Int) : Served Value → Answered
  | .hit v => .ready v
  | .join job => .waiting key window job
  | .start job => .waiting key window job

/-- Asking, with the reading of the clock as one step. -/
theorem ask_eq
    (symbol : String) :
  p.ask symbol = Act.stack >>= fun stack => p.reading >>= fun now => do
    let d ← get
    match d.cache.request (stack.keyOf symbol) (d.cache.windowAt now) with
    | (.hit v, c) => do
      set { d with cache := c }
      return .ready v
    | (.join job, c) => do
      set { d with cache := c }
      return .waiting (stack.keyOf symbol) (d.cache.windowAt now) job
    | (.start job, c) => do
      set { d with cache := c, queue := d.queue ++ [Due.mk job symbol stack] }
      return .waiting (stack.keyOf symbol) (d.cache.windowAt now) job
  := by
  simp only [ask, reading, bind_assoc]
  rfl

/-- A tick that asks reads the clock and is served at that time. -/
theorem outcome_ask
    (symbol : String) (stack : Stack) (d : Desk ι σ) :
  (p.ask symbol).outcome stack d
    = match p.reading.outcome stack d with
      | (.error e, d) => (.error e, d)
      | (.ok now, d) =>
        (.ok (.ofServed (stack.keyOf symbol) (d.cache.windowAt now) (d.serve stack symbol now).1),
          (d.serve stack symbol now).2)
  := by
  rw [ask_eq, Act.outcome_bind, Act.outcome_stack]
  simp only [Act.outcome_bind]
  rcases p.reading.outcome stack d with ⟨e | now, d⟩
  · rfl
  · simp only [Act.outcome_get, Desk.serve]
    rcases d.cache.request (stack.keyOf symbol) (d.cache.windowAt now) with ⟨v | job | job, c⟩ <;>
      rfl

end Pipeline

end TradeGate
