import TradeGate.Proofs.Pipeline.Floor

/-!
# Histories of a floor

A history is a list of events on a new floor.  `h.after n` is the floor after the first `n`
events, so the places of a history are its points in time.  At a place a tick asks for its
indicators, a computation starts, calls the indicator function or ends, a tick is judged or
cancelled.  Computations are numbered in the order of their start; each starts at one place.
-/

namespace TradeGate

/-- What happens on a new floor. -/
structure FloorHistory (γ ι σ : Type) where
  pipeline : Pipeline ι σ
  /-- Subscribers spare the computations. -/
  tells : ∀ s d, (pipeline.tell s d).Spares
  registry : Registry σ
  timeframe : Timeframe
  bound : Int
  /-- The world at the beginning. -/
  world : σ
  events : List (FloorEvent γ ι σ)

/-- The key under which a computation keeps its value. -/
def Due.key (due : Due) : String :=
  due.stack.keyOf due.symbol

namespace FloorHistory

variable {γ ι σ : Type} [DecidableEq γ] (h : FloorHistory γ ι σ)

/-- The floor after the first `n` events. -/
def after : Nat → Floor γ ι σ
  | 0 => ⟨.create h.registry h.timeframe h.bound h.world, fun _ => none, fun _ => none⟩
  | n + 1 =>
    match h.events[n]? with
    | some e => (after n).step h.pipeline e
    | none => after n

/-- The desk after the first `n` events. -/
def desk (n : Nat) : Desk ι σ := (h.after n).desk

/-- The tick of a task after the first `n` events. -/
def visit (n : Nat) (g : γ) : Option Visit := (h.after n).visits g

/-! ### Places -/

/-- At a place the tick of a task asks for its indicators. -/
def Asks (n : Nat) (g : γ) (v : Visit) : Prop :=
  h.events[n]? = some (.advance g) ∧ h.visit n g = some v ∧ v.stage = .handed

/-- At a place the tick of a task reads the clock, and is then served at a desk. -/
def Reads (n : Nat) (g : γ) (v : Visit) (now : Int) (d : Desk ι σ) : Prop :=
  h.Asks n g v ∧ h.pipeline.reading.outcome v.stack (h.desk n) = (.ok now, d)

/-- At a place a request for the indicators of a tick in a window is served by a
computation. -/
def Requests (n : Nat) (g : γ) (v : Visit) (window : Int) (job : Nat) : Prop :=
  ∃ now d, h.Reads n g v now d ∧ h.timeframe.window now = window ∧ d.jobFor v.key window = job

/-- At a place a computation starts in a window. -/
def Starts (n : Nat) (due : Due) (window : Int) : Prop :=
  ∃ g v now d, h.Reads n g v now d ∧ h.timeframe.window now = window
    ∧ (d.serve v.stack v.tick.symbol now).1 = .start due.job
    ∧ due.symbol = v.tick.symbol ∧ due.stack = v.stack

/-- At a place a computation calls the indicator function, whether or not it ends there. -/
def Evaluates (n : Nat) (due : Due) (o : Outcome Value) : Prop :=
  (h.events[n]? = some (.evaluate due.job) ∨ h.events[n]? = some (.compute due.job))
    ∧ due ∈ (h.desk n).queue ∧ (h.after n).evaluated due.job = none
    ∧ (h.pipeline.evaluation due (h.desk n).world).1 = o

/-- At a place a computation ends. -/
def Computes (n : Nat) (due : Due) (o : Outcome Value) : Prop :=
  h.events[n]? = some (.compute due.job) ∧ due ∈ (h.desk n).queue
    ∧ ((h.after n).ending h.pipeline due).1 = o

/-- At a place the signal of a task's tick is judged. -/
def Judges (n : Nat) (g : γ) (v : Visit) : Prop :=
  h.events[n]? = some (.advance g)
    ∧ ∃ s, h.visit n g = some { v with stage := .proposed s }

/-- At a place the tick of a task is cancelled. -/
def Cancels (n : Nat) (g : γ) (v : Visit) : Prop :=
  h.events[n]? = some (.cancel g)
    ∧ ∃ s, h.visit n g = some { v with stage := s }

/-! ### States in time -/

variable {h}

theorem after_succ
    {n : Nat} {e : FloorEvent γ ι σ} (he : h.events[n]? = some e) :
  h.after (n + 1) = (h.after n).step h.pipeline e
  := by
  simp [after, he]

theorem after_succ_of_none
    {n : Nat} (he : h.events[n]? = none) :
  h.after (n + 1) = h.after n
  := by
  simp [after, he]

/-- Nothing happens after the last event. -/
theorem after_of_length_le
    {n : Nat} (hn : h.events.length ≤ n) :
  h.after n = h.after h.events.length
  := by
  induction hn with
  | refl => rfl
  | step hn ih => rwa [after_succ_of_none (List.getElem?_eq_none hn)]

@[simp]
theorem timeframe_desk
    (n : Nat) :
  (h.desk n).cache.timeframe = h.timeframe
  := by
  induction n with
  | zero => rfl
  | succ n ih =>
    cases he : h.events[n]? with
    | none => rwa [desk, after_succ_of_none he]
    | some e => rwa [desk, after_succ he, Floor.timeframe_step h.tells]

/-- Reading the clock spares the computations. -/
theorem Reads.spares
    {n : Nat} {g : γ} {v : Visit} {now : Int} {d : Desk ι σ} (hr : h.Reads n g v now d) :
  (h.desk n).Spares d
  := by
  have hspares := h.pipeline.reading_spares v.stack (h.desk n)
  rwa [hr.2] at hspares

theorem Reads.windowAt
    {n : Nat} {g : γ} {v : Visit} {now : Int} {d : Desk ι σ} (hr : h.Reads n g v now d)
    (now' : Int) :
  d.cache.windowAt now' = h.timeframe.window now'
  := by
  rw [Cache.windowAt, hr.spares.timeframe, timeframe_desk]

/-- From a place to the next one the computations are spared, unless one starts or one
ends. -/
theorem desk_succ
    (n : Nat) :
  (h.desk n).Spares (h.desk (n + 1))
    ∨ (∃ due window d, h.Starts n due window ∧ (h.desk n).Spares d
      ∧ due.job = (h.desk n).cache.started + 1
      ∧ h.desk (n + 1) = { d with
          cache := (d.cache.start due.key window).2
          queue := d.queue ++ [due] })
    ∨ (∃ due o w, h.Computes n due o
      ∧ h.desk (n + 1) = { (h.desk n).withdraw due.job with
          cache := (h.desk n).cache.settle due.job o
          outcomes := (due.job, o) :: (h.desk n).outcomes
          world := w })
  := by
  cases he : h.events[n]? with
  | none =>
    left
    rw [desk, desk, after_succ_of_none he]
  | some e =>
    have hsucc : h.desk (n + 1) = ((h.after n).step h.pipeline e).desk := by
      rw [desk, after_succ he]
    obtain hspares | ⟨g, v, now, d, rfl, hv, hstage, hread, hdesk⟩ | ⟨due, rfl, hdue, hdesk⟩ :=
      Floor.desk_step h.tells (h.after n) e
    · left
      rw [hsucc]
      apply hspares
    · have hr : h.Reads n g v now d := ⟨⟨he, hv, hstage⟩, hread⟩
      rw [hsucc, hdesk]
      obtain ⟨x, -, y, stats, -, -, -, -, hserve⟩ | ⟨x, -, stats, -, -, -, -, hserve⟩ | ⟨-, hserve⟩ :=
        d.serve_cases v.stack v.tick.symbol now
      · left
        rw [hserve]
        exact hr.spares.trans ⟨rfl, rfl, fun _ hx => hx, rfl, rfl⟩
      · left
        rw [hserve]
        exact hr.spares.trans ⟨rfl, rfl, fun _ hx => hx, rfl, rfl⟩
      · right; left
        use ⟨d.cache.started + 1, v.tick.symbol, v.stack⟩, h.timeframe.window now, d
        use ⟨g, v, now, d, hr, rfl, by rw [hserve], rfl, rfl⟩, hr.spares
        rw [hserve, hr.windowAt, hr.spares.started]
        use rfl
        rfl
    · right; right
      use due, ((h.after n).ending h.pipeline due).1, ((h.after n).ending h.pipeline due).2
      use ⟨he, List.mem_of_find?_eq_some hdue, rfl⟩
      rw [hsucc, hdesk]
      rfl

end FloorHistory

end TradeGate
