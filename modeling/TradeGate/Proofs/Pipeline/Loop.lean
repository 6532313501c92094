import TradeGate.Proofs.Pipeline.Telling
import TradeGate.Proofs.Pipeline.Work

/-!
# The plain loop over ticks

The plain loop takes tick after tick from a source and admits it; however it ends, it closes
the source.  A drain is this loop turned inside out: it stops at every decision, and where it
has to wait for a computation.  Where all that is due is run when it waits, each turn of a
drain comes to what the turn of the loop comes to, at the same desk.
-/

namespace TradeGate

/-- What a turn of the loop comes to. -/
inductive LoopTurn where
  /-- A tick was admitted. -/
  | admitted (tick : Tick) (dec : Option Decision)
  /-- The source asks for patience. -/
  | later
  /-- The source is exhausted. -/
  | done

namespace LoopTurn

/-- What is delivered for a turn: nothing where no signal was proposed. -/
def pull : LoopTurn → Pull Decision
  | admitted _ (some dec) => .item dec
  | admitted _ none => .later
  | later => .later
  | done => .done

/-- How far a drain is after a turn. -/
def phase : LoopTurn → DrainPhase
  | done => .finished
  | _ => .idle

theorem pull_ne_done
    {turn : LoopTurn} (h : turn ≠ done) :
  turn.pull ≠ .done
  := by
  rcases turn with ⟨tick, _ | dec⟩ | _ | _
  · nofun
  · nofun
  · nofun
  · exact absurd rfl h

theorem phase_eq_idle
    {turn : LoopTurn} (h : turn ≠ done) :
  turn.phase = .idle
  := by
  cases turn with
  | admitted tick dec => rfl
  | later => rfl
  | done => exact absurd rfl h

end LoopTurn

namespace Pipeline

variable {ι σ : Type} (p : Pipeline ι σ)

/-! ### The loop -/

/-- Begins to iterate a source of ticks. -/
def beginTicks (ticks : Source σ Tick) : Act (Desk ι σ) Unit :=
  match ticks.start with
  | some start => Desk.lift start
  | none => throw (.wrongKind "an asynchronous source" "another value")

/-- Closes a source of ticks, if it has a way. -/
def closeTicks (ticks : Source σ Tick) : Act (Desk ι σ) Unit :=
  match ticks.close with
  | some close => Desk.lift close
  | none => pure ()

/-- Takes the next tick from a source and admits it; the source is iterated first, if this has
not begun. -/
def admitNext (ticks : Source σ Tick) (first : Bool) : Act (Desk ι σ) LoopTurn := do
  (if first then beginTicks ticks else pure ())
  match ← Desk.lift ticks.pull with
  | .done => return .done
  | .later => return .later
  | .item tick => return .admitted tick (← p.processTick tick)

/-- A turn of the loop.  The source is closed where the turn fails and where it is the last
one. -/
def loopTurn (ticks : Source σ Tick) (first : Bool) : Act (Desk ι σ) LoopTurn := do
  match ← tryCatch (p.admitNext ticks first) fun e => do
      closeTicks ticks
      throw e with
  | .done => do
    closeTicks ticks
    return .done
  | turn => return turn

/-- The end of an admission at a desk. -/
def admission (tick : Tick) :
    Except Fault (Option Decision) × Desk ι σ → Except Fault LoopTurn × Desk ι σ
  | (.ok dec, d) => (.ok (.admitted tick dec), d)
  | (.error e, d) => (.error e, d)

/-- A tick that was pulled is admitted. -/
theorem outcome_admitNext_of_item
    {ticks : Source σ Tick} {first : Bool} {stack : Stack} {d d₀ d' : Desk ι σ} {tick : Tick}
    (hbegin : (if first then beginTicks ticks else pure ()).outcome stack d = (.ok (), d₀))
    (hpull : (Desk.lift ticks.pull).outcome stack d₀ = (.ok (.item tick), d')) :
  (p.admitNext ticks first).outcome stack d
    = admission tick ((p.processTick tick).outcome stack d')
  := by
  rw [admitNext, Act.outcome_bind, hbegin]
  dsimp only
  rw [Act.outcome_bind, hpull]
  dsimp only
  rw [Act.outcome_bind]
  rcases (p.processTick tick).outcome stack d' with ⟨e | dec, d''⟩ <;> rfl

theorem loopTurn_hushed
    (ticks : Source σ Tick) (first : Bool) :
  p.hushed.loopTurn ticks first = p.loopTurn ticks first
  := by
  simp only [loopTurn, admitNext, processTick_hushed]

/-! ### The drain -/

/-- A step of a drain, and another one where it has to wait, after all that is due was run. -/
def drainTurn (ticks : Source σ Tick) : Act (DrainState ι σ) (Pull Decision) := do
  let r ← p.stepDrain ticks
  match r, (← get).1 with
  | .later, .waiting .. => do
    modify fun s => (s.1, p.work s.2)
    p.stepDrain ticks
  | r, _ => return r

/-- How far a drain is that waits for nothing. -/
def readyPhase (first : Bool) : DrainPhase :=
  if first then .fresh else .idle

/-- What a drain makes of the end of a turn. -/
def afterTurn : Except Fault LoopTurn × Desk ι σ → Except Fault (Pull Decision) × DrainState ι σ
  | (.ok turn, d) => (.ok turn.pull, turn.phase, d)
  | (.error e, d) => (.error e, .finished, d)

/-- The fault that leaves a turn, and the desk, after the source was closed for a fault: a
fault of closing wins. -/
def closeAfter (ticks : Source σ Tick) (stack : Stack) (e : Fault) (d : Desk ι σ) :
    Fault × Desk ι σ :=
  match (closeTicks ticks).outcome stack d with
  | (.ok _, d) => (e, d)
  | (.error e', d) => (e', d)

theorem snd_closeAfter
    (ticks : Source σ Tick) (stack : Stack) (e : Fault) (d : Desk ι σ) :
  (closeAfter ticks stack e d).2 = ((closeTicks ticks).outcome stack d).2
  := by
  rw [closeAfter]
  rcases (closeTicks ticks).outcome stack d with ⟨e' | ⟨⟩, d'⟩ <;> rfl

/-! ### Faults -/

theorem outcome_finishDrain
    (ticks : Source σ Tick) (stack : Stack) (s : DrainState ι σ) :
  (finishDrain ticks).outcome stack s
    = (((closeTicks ticks).outcome stack s.2).1, .finished,
        ((closeTicks ticks).outcome stack s.2).2)
  := by
  unfold finishDrain closeTicks
  cases ticks.close <;> rfl

/-- A drain that fails is finished, after the source was closed. -/
theorem outcome_orFinish_of_error
    {α : Type} {ticks : Source σ Tick} {a : Act (DrainState ι σ) α} {stack : Stack}
    {s s' : DrainState ι σ} {e : Fault} (ha : a.outcome stack s = (.error e, s')) :
  (orFinish ticks a).outcome stack s
    = (.error (closeAfter ticks stack e s'.2).1, .finished, (closeAfter ticks stack e s'.2).2)
  := by
  rw [orFinish, Act.outcome_tryCatch, ha]
  dsimp only
  rw [Act.outcome_bind, outcome_finishDrain, closeAfter]
  rcases (closeTicks ticks).outcome stack s'.2 with ⟨e' | x, d⟩ <;> rfl

theorem outcome_orFinish_of_ok
    {α : Type} {ticks : Source σ Tick} {a : Act (DrainState ι σ) α} {stack : Stack}
    {s s' : DrainState ι σ} {x : α} (ha : a.outcome stack s = (.ok x, s')) :
  (orFinish ticks a).outcome stack s = (.ok x, s')
  := by
  rw [orFinish, Act.outcome_tryCatch, ha]

/-- An action leaves a drain as it ends, its faults as they leave one. -/
theorem outcome_fromDrain
    {α : Type} (a : Act (DrainState ι σ) α) (stack : Stack) (s : DrainState ι σ) :
  (fromDrain a).outcome stack s
    = ((a.outcome stack s).1.mapError faultOut, (a.outcome stack s).2)
  := by
  rw [fromDrain, Act.outcome_tryCatch]
  rcases a.outcome stack s with ⟨e | x, s'⟩ <;> rfl

/-- A turn in which the admission fails ends after the source was closed. -/
theorem outcome_loopTurn_of_error
    {ticks : Source σ Tick} {first : Bool} {stack : Stack} {d d' : Desk ι σ} {e : Fault}
    (hadmitted : (p.admitNext ticks first).outcome stack d = (.error e, d')) :
  (p.loopTurn ticks first).outcome stack d
    = (.error (closeAfter ticks stack e d').1, (closeAfter ticks stack e d').2)
  := by
  rw [loopTurn, Act.outcome_bind, Act.outcome_tryCatch, hadmitted, closeAfter]
  dsimp only
  rw [Act.outcome_bind]
  rcases (closeTicks ticks).outcome stack d' with ⟨e' | x, d''⟩ <;> rfl

/-- A turn in which a tick is admitted, or the source asks for patience, comes to just that. -/
theorem outcome_loopTurn_of_ok
    {ticks : Source σ Tick} {first : Bool} {stack : Stack} {d d' : Desk ι σ} {turn : LoopTurn}
    (hadmitted : (p.admitNext ticks first).outcome stack d = (.ok turn, d')) (hturn : turn ≠ .done) :
  (p.loopTurn ticks first).outcome stack d = (.ok turn, d')
  := by
  rw [loopTurn, Act.outcome_bind, Act.outcome_tryCatch, hadmitted]
  cases turn with
  | admitted tick dec => rfl
  | later => rfl
  | done => exact absurd rfl hturn

/-! ### Turns of a drain -/

theorem startTicks_eq
    (ticks : Source σ Tick) :
  startTicks ticks = onDesk (beginTicks (ι := ι) ticks)
  := by
  unfold startTicks beginTicks
  cases ticks.start <;> rfl

/-- A step of a drain that ends the turn. -/
theorem outcome_drainTurn_of_idle
    {ticks : Source σ Tick} {stack : Stack} {s s' : DrainState ι σ} {r : Pull Decision}
    (hstep : (p.stepDrain ticks).outcome stack s = (.ok r, s'))
    (hs' : s'.1 = .idle ∨ s'.1 = .finished) :
  (p.drainTurn ticks).outcome stack s = (.ok r, s')
  := by
  obtain ⟨phase, d⟩ := s'
  rw [drainTurn, Act.outcome_bind, hstep]
  obtain rfl | rfl := hs' <;> cases r <;> rfl

theorem outcome_drainTurn_of_error
    {ticks : Source σ Tick} {stack : Stack} {s s' : DrainState ι σ} {e : Fault}
    (hstep : (p.stepDrain ticks).outcome stack s = (.error e, s')) :
  (p.drainTurn ticks).outcome stack s = (.error e, s')
  := by
  rw [drainTurn, Act.outcome_bind, hstep]

/-- A drain that has to wait receives the outcome that is there after work. -/
theorem outcome_drainTurn_of_waiting
    {ticks : Source σ Tick} {stack : Stack} {s : DrainState ι σ} {tick : Tick} {key : String}
    {window : Int} {job : Nat} {d : Desk ι σ} {o : Outcome Value}
    (hstep : (p.stepDrain ticks).outcome stack s
      = (.ok .later, .waiting tick key window job, d))
    (ho : (p.work d).outcome? job = some o) :
  (p.drainTurn ticks).outcome stack s
    = (orFinish ticks (onDesk (p.receive tick key window o) >>= deliver)).outcome stack
        (.waiting tick key window job, p.work d)
  := by
  rw [drainTurn, Act.outcome_bind, hstep]
  simp only [Act.outcome_bind, Act.outcome_get, Act.outcome_modify, stepDrain, ho]

/-- What a tick that was admitted delivers. -/
theorem outcome_deliver
    (dec : Option Decision) (tick : Tick) (stack : Stack) (s : DrainState ι σ) :
  (deliver dec).outcome stack s = (.ok (LoopTurn.admitted tick dec).pull, .idle, s.2)
  := by
  cases dec <;> rfl

/-- An action that ends the admission of a tick ends the turn of a drain as that of the
loop. -/
theorem outcome_orFinish_deliver
    {ticks : Source σ Tick} {first : Bool} {stack : Stack} {d d' : Desk ι σ} {tick : Tick}
    {a : Act (Desk ι σ) (Option Decision)} (phase : DrainPhase)
    (hadmitted : (p.admitNext ticks first).outcome stack d = admission tick (a.outcome stack d')) :
  (orFinish ticks (onDesk a >>= deliver)).outcome stack (phase, d')
    = afterTurn ((p.loopTurn ticks first).outcome stack d)
  := by
  rcases ha : a.outcome stack d' with ⟨e | dec, d''⟩
  · rw [ha] at hadmitted
    have hrun : (onDesk a >>= deliver).outcome stack (phase, d') = (.error e, phase, d'') := by
      rw [Act.outcome_bind, outcome_onDesk, ha]
    rw [outcome_orFinish_of_error hrun, p.outcome_loopTurn_of_error hadmitted]
    rfl
  · rw [ha] at hadmitted
    have hrun : (onDesk a >>= deliver).outcome stack (phase, d')
        = (.ok (LoopTurn.admitted tick dec).pull, .idle, d'') := by
      rw [Act.outcome_bind, outcome_onDesk, ha]
      apply outcome_deliver
    rw [outcome_orFinish_of_ok hrun, p.outcome_loopTurn_of_ok hadmitted nofun]
    rfl

theorem outcome_stepDrain_idle
    (ticks : Source σ Tick) (stack : Stack) (d : Desk ι σ) :
  (p.stepDrain ticks).outcome stack (.idle, d) = (p.nextTick ticks).outcome stack (.idle, d)
  := rfl

theorem outcome_stepDrain_fresh
    (ticks : Source σ Tick) (stack : Stack) (d : Desk ι σ) :
  (p.stepDrain ticks).outcome stack (.fresh, d)
    = (orFinish ticks (startTicks ticks) >>= fun _ => p.nextTick ticks).outcome stack (.idle, d)
  := rfl

theorem beginTicks_spares
    (ticks : Source σ Tick) :
  (beginTicks ticks : Act (Desk ι σ) Unit).Spares
  := by
  unfold beginTicks
  split
  · apply Desk.lift_spares
  · apply Act.spares_throw

section Turns

variable {p} {ticks : Source σ Tick} {stack : Stack} {d d' : Desk ι σ}

/-- Nothing but the end of the source is left to do after a tick was pulled. -/
theorem outcome_stepDrain_of_ne_done
    {r : Except Fault (Pull Decision)} {s' : DrainState ι σ}
    (hpull : (orFinish ticks (p.pullTick ticks)).outcome stack (.idle, d) = (r, s'))
    (hr : r ≠ .ok .done) :
  (p.stepDrain ticks).outcome stack (.idle, d) = (r, s')
  := by
  rw [outcome_stepDrain_idle, nextTick, Act.outcome_bind, hpull]
  rcases r with e | dec | _ | _
  · rfl
  · rfl
  · exact absurd rfl hr
  · rfl

/-- Where pulling fails as the admission does, so do the turns. -/
theorem outcome_drainTurn_of_pull_error
    {e : Fault} (hadmitted : (p.admitNext ticks false).outcome stack d = (.error e, d'))
    (hpull : (p.pullTick ticks).outcome stack (.idle, d) = (.error e, .idle, d')) :
  (p.drainTurn ticks).outcome stack (.idle, d)
    = afterTurn ((p.loopTurn ticks false).outcome stack d)
  := by
  rw [p.outcome_loopTurn_of_error hadmitted]
  apply p.outcome_drainTurn_of_error
  apply outcome_stepDrain_of_ne_done (outcome_orFinish_of_error hpull) nofun

/-- Where pulling delivers what was admitted, so do the turns. -/
theorem outcome_drainTurn_of_pull_ok
    {turn : LoopTurn} (hadmitted : (p.admitNext ticks false).outcome stack d = (.ok turn, d'))
    (hpull : (p.pullTick ticks).outcome stack (.idle, d) = (.ok turn.pull, .idle, d'))
    (hturn : turn ≠ .done) :
  (p.drainTurn ticks).outcome stack (.idle, d)
    = afterTurn ((p.loopTurn ticks false).outcome stack d)
  := by
  have hne : (Except.ok turn.pull : Except Fault _) ≠ .ok .done :=
    fun h => LoopTurn.pull_ne_done hturn (Except.ok.inj h)
  rw [p.outcome_loopTurn_of_ok hadmitted hturn, afterTurn, LoopTurn.phase_eq_idle hturn]
  apply p.outcome_drainTurn_of_idle _ (.inl rfl)
  apply outcome_stepDrain_of_ne_done (outcome_orFinish_of_ok hpull) hne

/-- Where the source ends, it is closed, and the turns fail only if closing does. -/
theorem outcome_drainTurn_of_pull_done
    (hadmitted : (p.admitNext ticks false).outcome stack d = (.ok .done, d'))
    (hpull : (p.pullTick ticks).outcome stack (.idle, d) = (.ok .done, .idle, d')) :
  (p.drainTurn ticks).outcome stack (.idle, d)
    = afterTurn ((p.loopTurn ticks false).outcome stack d)
  := by
  have hloop : (p.loopTurn ticks false).outcome stack d
      = (((closeTicks ticks).outcome stack d').1.map fun _ => .done,
          ((closeTicks ticks).outcome stack d').2) := by
    rw [loopTurn, Act.outcome_bind, Act.outcome_tryCatch, hadmitted]
    dsimp only
    rw [Act.outcome_bind]
    rcases (closeTicks ticks).outcome stack d' with ⟨e | x, d''⟩ <;> rfl
  have hstep : (p.stepDrain ticks).outcome stack (.idle, d)
      = (((closeTicks ticks).outcome stack d').1.map fun _ => .done, .finished,
          ((closeTicks ticks).outcome stack d').2) := by
    rw [outcome_stepDrain_idle, nextTick, Act.outcome_bind, outcome_orFinish_of_ok hpull]
    dsimp only
    rw [Act.outcome_bind, outcome_finishDrain]
    rcases (closeTicks ticks).outcome stack d' with ⟨e | x, d''⟩ <;> rfl
  rw [hloop]
  rcases hclose : (closeTicks ticks).outcome stack d' with ⟨e | x, d''⟩
  · rw [hclose] at hstep
    apply p.outcome_drainTurn_of_error hstep
  · rw [hclose] at hstep
    apply p.outcome_drainTurn_of_idle hstep (.inr rfl)

/-- A tick that was pulled is taken to the end of its admission, after work if it has to
wait. -/
theorem outcome_drainTurn_of_item
    (hd : d'.AllDue) {tick : Tick}
    (hpull : (Desk.lift ticks.pull).outcome stack d = (.ok (.item tick), d')) :
  (p.drainTurn ticks).outcome stack (.idle, d)
    = afterTurn ((p.loopTurn ticks false).outcome stack d)
  := by
  have hadmitted : (p.admitNext ticks false).outcome stack d
      = admission tick ((p.processTick tick).outcome stack d') :=
    p.outcome_admitNext_of_item rfl hpull
  rcases hask : (p.ask tick.symbol).outcome stack d' with ⟨e | x | ⟨key, window, job⟩, d''⟩
  · have hprocess : (p.processTick tick).outcome stack d' = (.error e, d'') := by
      simp [processTick, Act.outcome_bind, hask]
    rw [hprocess] at hadmitted
    apply outcome_drainTurn_of_pull_error hadmitted
    simp [pullTick, Act.outcome_bind, hpull, hask]
  · have hprocess : (p.processTick tick).outcome stack d'
        = (p.conclude tick x).outcome stack d'' := by
      simp only [processTick, Act.outcome_bind, hask]
    have hrun : (p.pullTick ticks).outcome stack (.idle, d)
        = (onDesk (p.conclude tick x) >>= deliver).outcome stack (.idle, d'') := by
      simp only [pullTick, Act.outcome_bind, outcome_onDesk, hpull, hask]
    rw [hprocess] at hadmitted
    rw [Act.outcome_bind, outcome_onDesk] at hrun
    rcases hconclude : (p.conclude tick x).outcome stack d'' with ⟨e | dec, d₃⟩
    · rw [hconclude] at hadmitted hrun
      apply outcome_drainTurn_of_pull_error hadmitted hrun
    · rw [hconclude] at hadmitted hrun
      apply outcome_drainTurn_of_pull_ok hadmitted _ nofun
      rw [hrun]
      apply outcome_deliver
  · obtain ⟨due, hdue, rfl⟩ := p.due_of_ask hd hask
    have hd'' : d''.AllDue := by
      have hkeeps := p.ask_keepsDue tick.symbol stack d' hd
      rwa [hask] at hkeeps
    obtain ⟨o, ho⟩ := (p.work_spec hd'').2 due hdue
    have hprocess : (p.processTick tick).outcome stack d'
        = (p.receive tick key window o).outcome stack (p.work d'') := by
      simp only [processTick, Act.outcome_bind, hask, Act.outcome_modify, Act.outcome_get, ho]
    have hrun : (p.pullTick ticks).outcome stack (.idle, d)
        = (.ok .later, .waiting tick key window due.job, d'') := by
      simp only [pullTick, Act.outcome_bind, outcome_onDesk, hpull, hask]
      rfl
    rw [hprocess] at hadmitted
    rw [p.outcome_drainTurn_of_waiting
      (outcome_stepDrain_of_ne_done (outcome_orFinish_of_ok hrun) nofun) ho]
    apply p.outcome_orFinish_deliver _ hadmitted

/-- The turn of a drain that goes on comes to that of the loop. -/
theorem outcome_drainTurn_idle
    (hd : d.AllDue) :
  (p.drainTurn ticks).outcome stack (.idle, d)
    = afterTurn ((p.loopTurn ticks false).outcome stack d)
  := by
  have hspares := Desk.lift_spares (ι := ι) ticks.pull stack d
  rcases hpull : (Desk.lift ticks.pull : Act (Desk ι σ) (Pull Tick)).outcome stack d
    with ⟨e | tick | _ | _, d'⟩
  · have hadmitted : (p.admitNext ticks false).outcome stack d = (.error e, d') := by
      simp [admitNext, Act.outcome_bind, hpull]
    apply outcome_drainTurn_of_pull_error hadmitted
    simp [pullTick, Act.outcome_bind, hpull]
  · rw [hpull] at hspares
    apply outcome_drainTurn_of_item (hd.of_spares hspares) hpull
  · have hadmitted : (p.admitNext ticks false).outcome stack d = (.ok .done, d') := by
      simp [admitNext, Act.outcome_bind, hpull]
    apply outcome_drainTurn_of_pull_done hadmitted
    simp [pullTick, Act.outcome_bind, hpull]
  · have hadmitted : (p.admitNext ticks false).outcome stack d = (.ok .later, d') := by
      simp [admitNext, Act.outcome_bind, hpull]
    have hlater : LoopTurn.later ≠ .done := by simp
    apply outcome_drainTurn_of_pull_ok hadmitted _ hlater
    simp [pullTick, Act.outcome_bind, hpull, LoopTurn.pull]

/-- The first turn of a drain comes to that of the loop: both begin to iterate the source. -/
theorem outcome_drainTurn_fresh
    (hd : d.AllDue) :
  (p.drainTurn ticks).outcome stack (.fresh, d)
    = afterTurn ((p.loopTurn ticks true).outcome stack d)
  := by
  have hspares := beginTicks_spares (ι := ι) ticks stack d
  rcases hbegin : (beginTicks (ι := ι) ticks).outcome stack d with ⟨e | x, d'⟩
  · have hadmitted : (p.admitNext ticks true).outcome stack d = (.error e, d') := by
      simp [admitNext, Act.outcome_bind, hbegin]
    have hstart : (startTicks ticks).outcome stack (.idle, d) = (.error e, .idle, d') := by
      simp [startTicks_eq, hbegin]
    rw [p.outcome_loopTurn_of_error hadmitted]
    apply p.outcome_drainTurn_of_error
    rw [outcome_stepDrain_fresh, Act.outcome_bind, outcome_orFinish_of_error hstart]
  · rw [hbegin] at hspares
    have hadmitted : (p.admitNext ticks true).outcome stack d
        = (p.admitNext ticks false).outcome stack d' := by
      simp [admitNext, Act.outcome_bind, hbegin]
    have hstart : (startTicks ticks).outcome stack (.idle, d) = (.ok x, .idle, d') := by
      simp [startTicks_eq, hbegin]
    have hstep : (p.stepDrain ticks).outcome stack (.fresh, d)
        = (p.stepDrain ticks).outcome stack (.idle, d') := by
      rw [outcome_stepDrain_fresh, Act.outcome_bind, outcome_orFinish_of_ok hstart,
        outcome_stepDrain_idle]
    have hturn : (p.drainTurn ticks).outcome stack (.fresh, d)
        = (p.drainTurn ticks).outcome stack (.idle, d') := by
      rw [drainTurn, Act.outcome_bind, hstep, ← Act.outcome_bind]
    have hloop : (p.loopTurn ticks true).outcome stack d
        = (p.loopTurn ticks false).outcome stack d' := by
      rw [loopTurn, loopTurn, Act.outcome_bind, Act.outcome_bind, Act.outcome_tryCatch,
        Act.outcome_tryCatch, hadmitted]
    rw [hturn, hloop, outcome_drainTurn_idle (hd.of_spares hspares)]

/-- Every turn of a drain comes to that of the loop. -/
theorem outcome_drainTurn
    (first : Bool) (hd : d.AllDue) :
  (p.drainTurn ticks).outcome stack (readyPhase first, d)
    = afterTurn ((p.loopTurn ticks first).outcome stack d)
  := by
  cases first with
  | true => apply outcome_drainTurn_fresh hd
  | false => apply outcome_drainTurn_idle hd

end Turns

/-! ### Turns of the loop -/

theorem closeTicks_spares
    (ticks : Source σ Tick) :
  (closeTicks ticks : Act (Desk ι σ) Unit).Spares
  := by
  unfold closeTicks
  split
  · apply Desk.lift_spares
  · apply Act.spares_pure

variable {p}

/-- A turn that admits a tick pulls it first, and ends as its admission does. -/
theorem processTick_of_loopTurn
    {ticks : Source σ Tick} {first : Bool} {stack : Stack} {d d' : Desk ι σ} {tick : Tick}
    {dec : Option Decision}
    (hturn : (p.loopTurn ticks first).outcome stack d = (.ok (.admitted tick dec), d')) :
  ∃ d₀ d₁, (if first then beginTicks ticks else pure ()).outcome stack d = (.ok (), d₀)
    ∧ (Desk.lift ticks.pull).outcome stack d₀ = (.ok (.item tick), d₁)
    ∧ (p.processTick tick).outcome stack d₁ = (.ok dec, d')
  := by
  have hadmitted : (p.admitNext ticks first).outcome stack d = (.ok (.admitted tick dec), d') := by
    obtain ⟨turn, d'', htry, hrest⟩ := Act.outcome_bind_eq_ok hturn
    rw [Act.outcome_tryCatch] at htry
    rcases hadmitted : (p.admitNext ticks first).outcome stack d with ⟨e | turn', d₃⟩
    · rw [hadmitted] at htry
      obtain ⟨x, d₄, -, ⟨⟩⟩ := Act.outcome_bind_eq_ok htry
    · rw [hadmitted] at htry
      cases htry
      rcases turn with ⟨tick', dec'⟩ | _ | _
      · cases hrest
        rfl
      · cases hrest
      · obtain ⟨x, d₄, -, ⟨⟩⟩ := Act.outcome_bind_eq_ok hrest
  obtain ⟨x, d₀, hbegin, hadmitted⟩ := Act.outcome_bind_eq_ok hadmitted
  obtain ⟨tick' | _ | _, d₁, hpull, hadmitted⟩ := Act.outcome_bind_eq_ok hadmitted
  · obtain ⟨dec', d₂, hprocess, hadmitted⟩ := Act.outcome_bind_eq_ok hadmitted
    cases hadmitted
    use d₀, d₁, hbegin, hpull, hprocess
  · cases hadmitted
  · cases hadmitted

/-- The loop keeps due whatever the cache computes. -/
theorem loopTurn_keepsDue
    (htells : ∀ s dec, (p.tell s dec).KeepsDue) (ticks : Source σ Tick) (first : Bool) :
  (p.loopTurn ticks first).KeepsDue
  := by
  have hadmitted : (p.admitNext ticks first).KeepsDue := by
    apply Act.KeepsDue.bind
    · cases first with
      | true => apply (beginTicks_spares ticks).keepsDue
      | false => apply Act.keepsDue_pure
    · intro x
      apply (Desk.lift_spares _).keepsDue.bind
      rintro (tick | _ | _)
      · apply (processTick_keepsDue htells tick).bind
        intro dec
        apply Act.keepsDue_pure
      · apply Act.keepsDue_pure
      · apply Act.keepsDue_pure
  apply Act.KeepsDue.bind
  · apply hadmitted.tryCatch
    intro e
    apply (closeTicks_spares ticks).keepsDue.bind
    intro x
    apply Act.keepsDue_throw
  · rintro (⟨tick, dec⟩ | _ | _)
    · apply Act.keepsDue_pure
    · apply Act.keepsDue_pure
    · apply (closeTicks_spares ticks).keepsDue.bind
      intro x
      apply Act.keepsDue_pure

end Pipeline

end TradeGate
