import TradeGate.Pipeline.Drain
import TradeGate.Proofs.Pipeline.Desk

/-!
# The stages of a tick

A tick that is admitted goes through stages: it asks for its indicators, may have to wait
for them, is proposed a signal, is judged, and its decision is told to one subscriber after
the other.  At every stage others may act before it goes on.  A tick that is admitted at
once, or by a drain, goes through the same stages without a break but for the wait.
-/

namespace TradeGate

/-- Actions that end alike everywhere are the same. -/
theorem Act.ext_outcome
    {σ α : Type} {a b : Act σ α} (h : ∀ stack s, a.outcome stack s = b.outcome stack s) :
  a = b
  := by
  funext stack s
  apply h

/-- How far a tick is. -/
inductive Stage where
  /-- It was handed in. -/
  | handed
  /-- It waits for a computation. -/
  | waiting (key : String) (window : Int) (job : Nat)
  /-- Its indicators are there. -/
  | indicated (indicators : Value)
  /-- A signal is proposed for it. -/
  | proposed (signal : Signal)
  /-- It is decided.  The subscriber at position `k` is told next, and `fuel` bounds the
  number of positions. -/
  | decided (decision : Decision) (fuel k : Nat)
  /-- It is over. -/
  | ended (r : Except Fault (Option Decision))
deriving Repr

namespace Stage

/-- Whether a tick waits for a computation. -/
def isWaiting : Stage → Bool
  | waiting .. => true
  | _ => false

/-- Whether a tick is over. -/
def isEnded : Stage → Bool
  | ended _ => true
  | _ => false

/-- The stage of a tick whose request is served. -/
def ofServed (key : String) (window : Int) : Served Value → Stage
  | .hit v => indicated v
  | .join job => waiting key window job
  | .start job => waiting key window job

/-- The stage that a step leads to.  A tick is over when it fails. -/
def ofResult : Except Fault Stage → Stage
  | .ok s => s
  | .error e => ended (.error e)

end Stage

namespace Pipeline

variable {ι σ : Type} (p : Pipeline ι σ)

/-- The evaluation of a tick's signal by a registry. -/
def judgement (registry : Registry σ) (tick : Tick) (s : Signal) : Act σ Decision :=
  registry.evaluate s (.decimal tick.price) (.instant tick.timestamp)

/-- Takes a tick to its next stage.  A tick that waits stays where it is until the
computation has ended. -/
def advance (tick : Tick) : Stage → Act (Desk ι σ) Stage
  | .handed => do
    match ← p.ask tick.symbol with
    | .ready v => return .indicated v
    | .waiting key window job => return .waiting key window job
  | .waiting key window job => do
    match (← get).outcome? job with
    | none => return .waiting key window job
    | some (.value v) => return .indicated v
    | some o => return .ended (.ok (← p.receive tick key window o))
  | .indicated v => do
    match ← Desk.lift (p.builder tick v) with
    | none => return .ended (.ok none)
    | some s => return .proposed s
  | .proposed s => do
    let d ← Desk.lift (judgement (← get).registry tick s)
    return .decided d ((← get).subscribers.length + p.newcomers) 0
  | .decided d 0 _ => return .ended (.ok (some d))
  | .decided d (fuel + 1) k => do
    match (← get).subscribers[k]? with
    | none => return .ended (.ok (some d))
    | some s => do
      (p.tell s d).absorb
      return .decided d fuel (k + 1)
  | .ended r => return .ended r

/-! ### Single steps -/

/-- A tick that was handed in asks for its indicators: it has them, or waits. -/
theorem outcome_advance_handed
    (tick : Tick) (stack : Stack) (d : Desk ι σ) :
  (p.advance tick .handed).outcome stack d
    = match p.reading.outcome stack d with
      | (.error e, d) => (.error e, d)
      | (.ok now, d) =>
        (.ok (.ofServed (stack.keyOf tick.symbol) (d.cache.windowAt now)
            (d.serve stack tick.symbol now).1),
          (d.serve stack tick.symbol now).2)
  := by
  rw [advance, Act.outcome_bind, outcome_ask]
  rcases p.reading.outcome stack d with ⟨e | now, d⟩
  · rfl
  · dsimp only
    rcases d.serve stack tick.symbol now with ⟨v | job | job, d'⟩ <;> rfl

/-- The steps of a tick under a stack at a desk, each with what it takes. -/
inductive Moves (stack : Stack) (tick : Tick) (d : Desk ι σ) : Stage → Stage → Prop where
  /-- The clock has no reading. -/
  | unread {e : Fault} (hread : (p.reading.outcome stack d).1 = .error e) :
      Moves stack tick d .handed (.ended (.error e))
  /-- The cache has the indicators. -/
  | hit {now : Int} {d' : Desk ι σ} {e : Entry String Value} {x : Value}
      (hread : p.reading.outcome stack d = (.ok now, d')) (he : e ∈ d'.cache.entries)
      (hk : e.key = stack.keyOf tick.symbol) (hw : e.window = d'.cache.windowAt now)
      (hx : e.value = some x)
      (hj : d'.jobFor (stack.keyOf tick.symbol) (d'.cache.windowAt now) = e.job) :
      Moves stack tick d .handed (.indicated x)
  /-- The tick has to wait for a computation, which runs for an entry or starts. -/
  | queued {now : Int} {d' : Desk ι σ} {job : Nat}
      (hread : p.reading.outcome stack d = (.ok now, d'))
      (hj : d'.jobFor (stack.keyOf tick.symbol) (d'.cache.windowAt now) = job)
      (hdue : (∃ e ∈ d'.cache.entries, e.value = none ∧ e.job = job)
        ∨ ⟨job, tick.symbol, stack⟩ ∈ (d'.serve stack tick.symbol now).2.queue) :
      Moves stack tick d .handed
        (.waiting (stack.keyOf tick.symbol) (d'.cache.windowAt now) job)
  /-- The computation has not ended. -/
  | patient {key : String} {window : Int} {job : Nat} (ho : d.outcome? job = none) :
      Moves stack tick d (.waiting key window job) (.waiting key window job)
  /-- The computation has ended with a value. -/
  | received {key : String} {window : Int} {job : Nat} {x : Value}
      (ho : d.outcome? job = some (.value x)) :
      Moves stack tick d (.waiting key window job) (.indicated x)
  /-- The computation has ended without a value. -/
  | failed {key : String} {window : Int} {job : Nat} {o : Outcome Value} {e : Fault}
      (ho : d.outcome? job = some o) (hne : ∀ x, o ≠ .value x) :
      Moves stack tick d (.waiting key window job) (.ended (.error e))
  /-- The builder fails. -/
  | unbuilt {x : Value} {e : Fault}
      (hb : ((p.builder tick x).outcome stack d.world).1 = .error e) :
      Moves stack tick d (.indicated x) (.ended (.error e))
  /-- No signal is proposed. -/
  | unproposed {x : Value} (hb : ((p.builder tick x).outcome stack d.world).1 = .ok none) :
      Moves stack tick d (.indicated x) (.ended (.ok none))
  /-- A signal is proposed. -/
  | proposed {x : Value} {s : Signal}
      (hb : ((p.builder tick x).outcome stack d.world).1 = .ok (some s)) :
      Moves stack tick d (.indicated x) (.proposed s)
  /-- The evaluation fails. -/
  | unjudged {s : Signal} {e : Fault}
      (hj : ((judgement d.registry tick s).outcome stack d.world).1 = .error e) :
      Moves stack tick d (.proposed s) (.ended (.error e))
  /-- The signal is judged. -/
  | judged {s : Signal} {dec : Decision} {fuel : Nat}
      (hj : ((judgement d.registry tick s).outcome stack d.world).1 = .ok dec) :
      Moves stack tick d (.proposed s) (.decided dec fuel 0)
  /-- A subscriber is told. -/
  | told {dec : Decision} {fuel fuel' k k' : Nat} :
      Moves stack tick d (.decided dec fuel k) (.decided dec fuel' k')
  /-- A subscriber fails beyond what is absorbed. -/
  | untold {dec : Decision} {fuel k : Nat} {s : ι} {e : Fault}
      (hs : d.subscribers[k]? = some s)
      (ht : ((p.tell s dec).absorb.outcome stack d).1 = .error e) :
      Moves stack tick d (.decided dec fuel k) (.ended (.error e))
  /-- All subscribers were told. -/
  | done {dec : Decision} {fuel k : Nat} :
      Moves stack tick d (.decided dec fuel k) (.ended (.ok (some dec)))
  | idle {r : Except Fault (Option Decision)} : Moves stack tick d (.ended r) (.ended r)

/-- A tick that asks has its indicators, or waits for the computation that serves it. -/
theorem moves_handed
    (stack : Stack) (tick : Tick) (d : Desk ι σ) :
  p.Moves stack tick d .handed (.ofResult ((p.advance tick .handed).outcome stack d).1)
  := by
  rw [outcome_advance_handed]
  rcases hread : p.reading.outcome stack d with ⟨e | now, d'⟩
  · apply Moves.unread
    rw [hread]
  · dsimp only
    obtain ⟨e, he, x, stats, hk, hw, hx, hj, hserve⟩ | ⟨e, he, stats, -, -, hx, hj, hserve⟩
      | ⟨hj, hserve⟩ := d'.serve_cases stack tick.symbol now
    · rw [hserve]
      apply Moves.hit hread he hk hw hx hj
    · rw [hserve]
      apply Moves.queued hread hj
      left
      use e, he, hx
    · have hdue : (⟨d'.cache.started + 1, tick.symbol, stack⟩ : Due)
          ∈ (d'.serve stack tick.symbol now).2.queue := by
        rw [hserve]
        apply List.mem_append_right _ List.mem_cons_self
      rw [hserve]
      apply Moves.queued hread hj
      right
      apply hdue

/-- Going to the next stage is one of the steps. -/
theorem moves_advance
    (stack : Stack) (tick : Tick) (d : Desk ι σ) (s : Stage) :
  p.Moves stack tick d s (.ofResult ((p.advance tick s).outcome stack d).1)
  := by
  cases s with
  | handed => apply moves_handed
  | waiting key window job =>
    rw [advance, Act.outcome_bind, Act.outcome_get]
    dsimp only
    rcases ho : d.outcome? job with _ | x | e | _
    · apply Moves.patient ho
    · apply Moves.received ho
    · apply Moves.failed ho
      rintro x ⟨⟩
    · apply Moves.failed ho
      rintro x ⟨⟩
  | indicated x =>
    rw [advance, Act.outcome_bind, Desk.outcome_lift]
    rcases hb : ((p.builder tick x).outcome stack d.world).1 with e | _ | s
    · apply Moves.unbuilt hb
    · apply Moves.unproposed hb
    · apply Moves.proposed hb
  | proposed s =>
    rw [advance, Act.outcome_bind, Act.outcome_get]
    dsimp only
    rw [Act.outcome_bind, Desk.outcome_lift]
    rcases hj : ((judgement d.registry tick s).outcome stack d.world).1 with e | dec
    · apply Moves.unjudged hj
    · apply Moves.judged hj
  | decided dec fuel k =>
    cases fuel with
    | zero => apply Moves.done
    | succ fuel =>
      rw [advance, Act.outcome_bind, Act.outcome_get]
      dsimp only
      cases hs : d.subscribers[k]? with
      | none => apply Moves.done
      | some s =>
        dsimp only
        rw [Act.outcome_bind]
        rcases ht : (p.tell s dec).absorb.outcome stack d with ⟨e | x, d'⟩
        · apply Moves.untold hs
          rw [ht]
        · apply Moves.told
  | ended r => apply Moves.idle

/-! ### What is left -/

/-- What is left of the admission of a tick while no other is under way. -/
def rest (tick : Tick) : Stage → Act (Desk ι σ) (Option Decision)
  | .handed => p.processTick tick
  | .waiting key window job => do
    modify p.work
    match (← get).outcome? job with
    | some o => p.receive tick key window o
    | none => return none
  | .indicated v => p.conclude tick v
  | .proposed s => do
    let d ← Desk.lift (judgement (← get).registry tick s)
    p.notify d
    return some d
  | .decided d fuel k => do
    p.notifyFrom d fuel k
    return some d
  | .ended r => Act.ofExcept r

/-- What is left of an admission is its next stage and what is left after that. -/
theorem rest_eq_advance
    (tick : Tick) {s : Stage} (hs : s.isWaiting = false) :
  p.rest tick s = p.advance tick s >>= p.rest tick
  := by
  cases s with
  | handed =>
    simp only [rest, advance, processTick, bind_assoc]
    congr 1
    funext x
    cases x with
    | ready v => simp [rest]
    | waiting key window job =>
      exact (pure_bind _ _).symm
  | waiting key window job => cases hs
  | indicated v =>
    simp only [rest, advance, conclude, bind_assoc]
    congr 1
    funext x
    cases x with
    | none =>
      exact (pure_bind _ _).symm
    | some s => simp [rest, judgement]
  | proposed s => simp [rest, advance, notify]
  | decided d fuel k =>
    cases fuel with
    | zero =>
      simp only [rest, advance, notifyFrom, pure_bind]
      rfl
    | succ fuel =>
      simp only [rest, advance, notifyFrom, bind_assoc]
      congr 1
      funext desk
      cases desk.subscribers[k]? with
      | none =>
        exact (pure_bind _ _).symm
      | some s => simp [rest]
  | ended r => simp [rest, advance]

/-- A tick whose computation has ended receives its outcome. -/
theorem outcome_receive
    (tick : Tick) (key : String) (window : Int) {job : Nat} {o : Outcome Value} (stack : Stack)
    {d : Desk ι σ} (ho : d.outcome? job = some o) :
  (p.receive tick key window o).outcome stack d
    = (p.advance tick (.waiting key window job) >>= p.rest tick).outcome stack d
  := by
  simp only [advance, bind_assoc, Act.outcome_bind, Act.outcome_get, ho]
  cases o with
  | value v => rfl
  | failure e => rfl
  | cancelled => rfl

@[simp]
theorem outcome_onDesk
    {α : Type} (a : Act (Desk ι σ) α) (stack : Stack) (s : DrainState ι σ) :
  (onDesk a).outcome stack s
    = ((a.outcome stack s.2).1, s.1, (a.outcome stack s.2).2)
  := rfl

/-- A tick on the desk beside a drain goes to its next stage, or waits, or goes on to its
end. -/
def takeTick (tick : Tick) : Act (DrainState ι σ) (Pull Decision) := do
  match ← onDesk (p.advance tick .handed) with
  | .waiting key window job => do
    setPhase (.waiting tick key window job)
    return .later
  | s => deliver (← onDesk (p.rest tick s))

/-- A drain pulls a tick and takes it through its stages, unless it has to wait. -/
theorem pullTick_eq
    (ticks : Source σ Tick) :
  p.pullTick ticks = onDesk (Desk.lift ticks.pull) >>= fun
    | .done => return .done
    | .later => return .later
    | .item tick => p.takeTick tick
  := by
  unfold pullTick
  congr 1
  funext x
  cases x with
  | done => rfl
  | later => rfl
  | item tick =>
    apply Act.ext_outcome
    intro stack s
    simp only [takeTick, advance, Act.outcome_bind, outcome_onDesk]
    rcases (p.ask tick.symbol).outcome stack s.2 with ⟨e | v | ⟨key, window, job⟩, d⟩ <;> rfl

end Pipeline

end TradeGate
