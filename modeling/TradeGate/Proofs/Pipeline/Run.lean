import TradeGate.Proofs.Pipeline.Loop
import TradeGate.Proofs.Risk.FirstFailure
import TradeGate.Proofs.Stream.History

/-!
# Runs and the plain loop

A run is pulled turn by turn by a consumer, who may do anything at the desk between the turns
but opens no frame around them.  The plain loop over the same ticks has the same consumer,
and its turns are made under the frame of the run.  Turn by turn a run answers what the
loop comes to, and leaves the desk as the loop does: it delivers the decisions of the loop in
order and pulls no tick ahead, and a fault leaves it as faults leave a generator.
-/

namespace TradeGate

/-- A run over ticks, and its consumer. -/
structure RunHistory (ι σ : Type) where
  pipeline : Pipeline ι σ
  ticks : Source σ Tick
  frame : Frame
  /-- The context that the run is entered in. -/
  context : Context
  /-- The desk at the entry. -/
  start : Desk ι σ
  /-- What the consumer does before each turn. -/
  consumer : Nat → Desk ι σ → Desk ι σ
  /-- What the cache computes is due, and neither consumer nor subscribers change that. -/
  allDue : start.AllDue
  consumes : ∀ n d, d.AllDue → (consumer n d).AllDue
  tells : ∀ s dec, (pipeline.tell s dec).KeepsDue

namespace RunHistory

variable {ι σ : Type} (h : RunHistory ι σ)

/-- The stack under which the run is pulled. -/
def stack : Stack :=
  h.frame :: h.context.stack

/-- The context in which the run is pulled. -/
def inner : Context :=
  { h.context with stack := h.stack }

/-- The decisions as a source. -/
def drain : Source (Pipeline.DrainState ι σ) Decision :=
  h.pipeline.drain h.ticks

/-! ### The run -/

/-- Entering the run. -/
def entered : Except Fault Unit × Stream × Context × Pipeline.DrainState ι σ :=
  (Stream.create h.frame).enter h.drain h.context (.fresh, h.start)

/-- Pulls the run; where it has to wait, all that is due is run, and it is pulled again. -/
def pulled (s : Stream) (w : Pipeline.DrainState ι σ) :
    Except Fault (Pull Decision) × Stream × Pipeline.DrainState ι σ :=
  match s.next h.drain h.inner w with
  | (.ok .later, s, .waiting tick key window job, d) =>
    s.next h.drain h.inner (.waiting tick key window job, h.pipeline.work d)
  | r => r

/-- The stream and the state of the drain before a turn. -/
def state : Nat → Stream × Pipeline.DrainState ι σ
  | 0 => (h.entered.2.1, h.entered.2.2.2)
  | n + 1 => (h.pulled (state n).1 ((state n).2.1, h.consumer n (state n).2.2)).2

/-- What a turn gives: a decision, the end, or nothing yet. -/
def answer (n : Nat) : Except Fault (Pull Decision) :=
  (h.pulled (h.state n).1 ((h.state n).2.1, h.consumer n (h.state n).2.2)).1

/-- The desk before a turn. -/
def desk (n : Nat) : Desk ι σ :=
  (h.state n).2.2

/-- The decisions delivered before a turn. -/
def delivered (n : Nat) : List Decision :=
  (List.range n).filterMap fun k =>
    match h.answer k with
    | .ok (.item dec) => some dec
    | _ => none

/-! ### The loop -/

/-- A turn of the loop at a desk. -/
def loopTurn (n : Nat) (d : Desk ι σ) : Except Fault LoopTurn × Desk ι σ :=
  (h.pipeline.loopTurn h.ticks (n == 0)).outcome h.stack (h.consumer n d)

/-- Whether the loop is over before a turn, and the desk. -/
def loop : Nat → Bool × Desk ι σ
  | 0 => (false, h.start)
  | n + 1 =>
    if (loop n).1 then (true, h.consumer n (loop n).2)
    else
      (Pull.ends ((h.loopTurn n (loop n).2).1.map LoopTurn.pull), (h.loopTurn n (loop n).2).2)

/-- What a turn of the loop comes to. -/
def loopAnswer (n : Nat) : Except Fault LoopTurn :=
  if (h.loop n).1 then .ok .done else (h.loopTurn n (h.loop n).2).1

/-- The ticks that the loop admits before a turn, in order, each with its decision if there is
one. -/
def admitted (n : Nat) : List (Tick × Option Decision) :=
  (List.range n).filterMap fun k =>
    match h.loopAnswer k with
    | .ok (.admitted tick dec) => some (tick, dec)
    | _ => none

/-- The source gives a tick at a turn, and leaves a desk. -/
def Pulls (n : Nat) (tick : Tick) (d : Desk ι σ) : Prop :=
  ∃ d₀, ((if n == 0 then Pipeline.beginTicks h.ticks else pure ()).outcome h.stack
      (h.consumer n (h.desk n))) = (.ok (), d₀)
    ∧ (Desk.lift h.ticks.pull).outcome h.stack d₀ = (.ok (.item tick), d)

/-- No turn before this one failed or was the last. -/
def Live (n : Nat) : Prop :=
  ∀ m < n, Pull.ends (h.answer m) = false

/-- The same run, whose subscribers raise no ordinary faults. -/
def hushed : RunHistory ι σ :=
  { h with pipeline := h.pipeline.hushed, tells := fun s dec => (h.tells s dec).absorb }

/-! ### Turns -/

theorem ends_mapError
    (f : Fault → Fault) (r : Except Fault (Pull Decision)) :
  Pull.ends (r.mapError f) = Pull.ends r
  := by
  rcases r with e | dec | _ | _ <;> rfl

theorem outcome_pull_drain
    (stack : Stack) (w : Pipeline.DrainState ι σ) :
  h.drain.pull.outcome stack w
    = (((h.pipeline.stepDrain h.ticks).outcome stack w).1.mapError Pipeline.faultOut,
        ((h.pipeline.stepDrain h.ticks).outcome stack w).2)
  := Pipeline.outcome_fromDrain _ stack w

/-- A stream that is open gives what the turn of its drain comes to, faults as they leave a
drain. -/
theorem pulled_of_open
    {s : Stream} (ha : s.active = true) (ho : s.opened = true) (hf : s.finished = false)
    (w : Pipeline.DrainState ι σ) :
  h.pulled s w
    = let (r, w) := (h.pipeline.drainTurn h.ticks).outcome h.stack w
      (r.mapError Pipeline.faultOut, { s with finished := Pull.ends r }, w)
  := by
  have hnext : ∀ w, s.next h.drain h.inner w
      = let (r, w) := (h.pipeline.stepDrain h.ticks).outcome h.stack w
        (r.mapError Pipeline.faultOut, { s with finished := Pull.ends r }, w) := by
    intro w
    rw [Stream.next_of_open h.drain _ _ ha ho hf, outcome_pull_drain]
    dsimp only
    rw [ends_mapError]
    rfl
  have hsame : { s with finished := false } = s := by rw [← hf]
  rw [pulled, hnext, Pipeline.drainTurn, Act.outcome_bind]
  rcases (h.pipeline.stepDrain h.ticks).outcome h.stack w with ⟨e | dec | _ | _, phase, d⟩
  · rfl
  · rfl
  · rfl
  · cases phase with
    | fresh => rfl
    | idle => rfl
    | waiting tick key window job =>
      change Stream.next h.drain { s with finished := false } _ _ = _
      rw [hsame, hnext]
      rfl
    | finished => rfl

theorem pulled_of_finished
    {s : Stream} (hf : s.finished = true) (w : Pipeline.DrainState ι σ) :
  h.pulled s w = (.ok .done, s, w)
  := by
  rw [pulled, Stream.next_of_finished h.drain hf]

/-- A stream whose drain waits for nothing gives what the turn of the loop comes to. -/
theorem pulled_of_ready
    {s : Stream} (ha : s.active = true) (ho : s.opened = true) (hf : s.finished = false)
    (first : Bool) {d : Desk ι σ} (hd : d.AllDue) :
  let (r, d') := (h.pipeline.loopTurn h.ticks first).outcome h.stack d
  ∃ phase, (Pull.ends (r.map LoopTurn.pull) = false → phase = .idle)
    ∧ h.pulled s (Pipeline.readyPhase first, d)
      = ((r.map LoopTurn.pull).mapError Pipeline.faultOut,
          { s with finished := Pull.ends (r.map LoopTurn.pull) }, phase, d')
  := by
  rw [h.pulled_of_open ha ho hf, Pipeline.outcome_drainTurn first hd]
  rcases (h.pipeline.loopTurn h.ticks first).outcome h.stack d with
    ⟨e | ⟨tick, _ | dec⟩ | _ | _, d'⟩
  · use .finished, nofun
    rfl
  · use .idle, fun _ => rfl
    rfl
  · use .idle, fun _ => rfl
    rfl
  · use .idle, fun _ => rfl
    rfl
  · use .finished, nofun
    rfl

/-- The stream of the run. -/
def opened (finished : Bool) : Stream :=
  ⟨h.frame, some ⟨h.context.id, h.context.stack⟩, true, finished⟩

/-- Entering pushes the frame and begins to iterate the drain, which does nothing yet. -/
theorem entered_eq :
  h.entered = (.ok (), h.opened false, h.inner, .fresh, h.start)
  := rfl

/-- Before a turn the run is where the loop is. -/
structure Follows (n : Nat) : Prop where
  stream : (h.state n).1 = h.opened (h.loop n).1
  phase : (h.loop n).1 = false → (h.state n).2.1 = Pipeline.readyPhase (n == 0)
  desk : h.desk n = (h.loop n).2
  allDue : (h.loop n).2.AllDue

variable {h} {n : Nat}

/-- A turn of the run comes to what the turn of the loop comes to. -/
theorem Follows.pulled_eq
    (hn : h.Follows n) :
  ∃ phase, ((h.loop (n + 1)).1 = false → phase = .idle)
    ∧ h.pulled (h.state n).1 ((h.state n).2.1, h.consumer n (h.state n).2.2)
      = (((h.loopAnswer n).map LoopTurn.pull).mapError Pipeline.faultOut,
          h.opened (h.loop (n + 1)).1, phase, (h.loop (n + 1)).2)
  := by
  have hdesk : (h.state n).2.2 = (h.loop n).2 := hn.desk
  rw [hn.stream, hdesk, loop, loopAnswer]
  cases hover : (h.loop n).1 with
  | true =>
    use (h.state n).2.1, nofun
    apply h.pulled_of_finished rfl
  | false =>
    rw [hn.phase hover]
    apply h.pulled_of_ready rfl rfl rfl _ (h.consumes n _ hn.allDue)

theorem Follows.succ
    (hn : h.Follows n) :
  h.Follows (n + 1)
  := by
  obtain ⟨phase, hphase, hpulled⟩ := hn.pulled_eq
  have hstate : h.state (n + 1) = (h.opened (h.loop (n + 1)).1, phase, (h.loop (n + 1)).2) := by
    rw [state, hpulled]
  constructor
  case stream => rw [hstate]
  case phase =>
    intro hover
    rw [hstate]
    apply hphase hover
  case desk => exact congrArg (fun s => s.2.2) hstate
  case allDue =>
    rw [loop]
    split
    · apply h.consumes n _ hn.allDue
    · apply Pipeline.loopTurn_keepsDue h.tells h.ticks (n == 0)
      apply h.consumes n _ hn.allDue

theorem follows
    (n : Nat) :
  h.Follows n
  := by
  induction n with
  | zero => exact ⟨rfl, fun _ => rfl, rfl, h.allDue⟩
  | succ n ih => apply ih.succ

theorem answer_eq
    (n : Nat) :
  h.answer n = ((h.loopAnswer n).map LoopTurn.pull).mapError Pipeline.faultOut
  := by
  obtain ⟨phase, -, hpulled⟩ := (h.follows n).pulled_eq
  rw [answer, hpulled]

theorem desk_eq
    (n : Nat) :
  h.desk n = (h.loop n).2
  := (h.follows n).desk

/-! ### What the loop comes to -/

theorem loop_succ_of_over
    (hover : (h.loop n).1 = true) :
  h.loop (n + 1) = (true, h.consumer n (h.loop n).2)
  := by
  rw [loop, if_pos hover]

theorem loop_succ_of_not_over
    (hover : (h.loop n).1 = false) :
  h.loop (n + 1)
    = (Pull.ends ((h.loopTurn n (h.loop n).2).1.map LoopTurn.pull), (h.loopTurn n (h.loop n).2).2)
  := by
  rw [loop, hover]
  rfl

theorem loopAnswer_of_over
    (hover : (h.loop n).1 = true) :
  h.loopAnswer n = .ok .done
  := by
  rw [loopAnswer, if_pos hover]

theorem loopAnswer_of_not_over
    (hover : (h.loop n).1 = false) :
  h.loopAnswer n = (h.loopTurn n (h.loop n).2).1
  := by
  rw [loopAnswer, hover]
  rfl

theorem ends_answer
    (n : Nat) :
  Pull.ends (h.answer n) = Pull.ends ((h.loopAnswer n).map LoopTurn.pull)
  := by
  rw [answer_eq, ends_mapError]

/-- The loop is not over as long as the run is not. -/
theorem live_iff
    (n : Nat) :
  h.Live n ↔ (h.loop n).1 = false
  := by
  induction n with
  | zero =>
    constructor
    · intro _
      rfl
    · rintro - m ⟨⟩
  | succ n ih =>
    have hsucc : h.Live (n + 1) ↔ h.Live n ∧ Pull.ends (h.answer n) = false :=
      Nat.forall_lt_succ_right
    rw [hsucc, ih, ends_answer]
    cases hover : (h.loop n).1 with
    | true => simp [loop_succ_of_over hover]
    | false => simp [loop_succ_of_not_over hover, loopAnswer_of_not_over hover]

/-- A tick that the loop admits was pulled, and its decision is that of its admission. -/
theorem pulls_of_admitted
    {tick : Tick} {dec : Option Decision} (ha : h.loopAnswer n = .ok (.admitted tick dec)) :
  ∃ d, h.Pulls n tick d
    ∧ (h.pipeline.processTick tick).outcome h.stack d = (.ok dec, h.desk (n + 1))
  := by
  cases hover : (h.loop n).1 with
  | true =>
    rw [loopAnswer_of_over hover] at ha
    cases ha
  | false =>
    rw [loopAnswer_of_not_over hover] at ha
    have hturn : h.loopTurn n (h.loop n).2 = (.ok (.admitted tick dec), h.desk (n + 1)) := by
      rw [desk_eq, loop_succ_of_not_over hover, ← ha]
    obtain ⟨d₀, d, hbegin, hpull, hprocess⟩ := Pipeline.processTick_of_loopTurn hturn
    rw [← desk_eq] at hbegin
    use d, ⟨d₀, hbegin, hpull⟩

/-- A tick that was pulled in a turn that does not end the run is admitted. -/
theorem admitted_of_pulls
    {tick : Tick} {d : Desk ι σ} (hpulls : h.Pulls n tick d) (hlive : h.Live (n + 1)) :
  ∃ dec, h.loopAnswer n = .ok (.admitted tick dec)
  := by
  obtain ⟨d₀, hbegin, hpull⟩ := hpulls
  have hover := (live_iff n).mp fun m hm => hlive m (Nat.lt_succ_of_lt hm)
  have hends := hlive n (Nat.lt_succ_self n)
  rw [ends_answer, loopAnswer_of_not_over hover] at hends
  rw [desk_eq] at hbegin
  have hadmitted := h.pipeline.outcome_admitNext_of_item hbegin hpull
  rw [loopAnswer_of_not_over hover]
  rcases hprocess : (h.pipeline.processTick tick).outcome h.stack d with ⟨e | dec, d'⟩
  · rw [hprocess] at hadmitted
    rw [loopTurn, h.pipeline.outcome_loopTurn_of_error hadmitted] at hends
    cases hends
  · rw [hprocess] at hadmitted
    use dec
    rw [loopTurn, h.pipeline.outcome_loopTurn_of_ok hadmitted nofun]

/-- A turn that gives something is not the last. -/
theorem live_succ
    {r : Pull Decision} (ha : h.answer n = .ok r) (hr : r ≠ .done) :
  h.Live (n + 1)
  := by
  have hends : Pull.ends (h.answer n) = false := by
    rw [ha]
    cases r with
    | item dec => rfl
    | done => exact absurd rfl hr
    | later => rfl
  rw [ends_answer] at hends
  rw [live_iff]
  cases hover : (h.loop n).1 with
  | true =>
    rw [loopAnswer_of_over hover] at hends
    cases hends
  | false =>
    rw [loopAnswer_of_not_over hover] at hends
    rw [loop_succ_of_not_over hover, hends]

/-- A decision that is delivered is that of the tick that was just admitted. -/
theorem loopAnswer_of_answer
    {dec : Decision} (ha : h.answer n = .ok (.item dec)) :
  ∃ tick, h.loopAnswer n = .ok (.admitted tick (some dec))
  := by
  rw [answer_eq] at ha
  rcases hl : h.loopAnswer n with e | ⟨tick, _ | dec'⟩ | _ | _
  · rw [hl] at ha
    cases ha
  · rw [hl] at ha
    cases ha
  · rw [hl] at ha
    cases ha
    use tick
  · rw [hl] at ha
    cases ha
  · rw [hl] at ha
    cases ha

theorem admitted_succ
    (n : Nat) :
  h.admitted (n + 1) = h.admitted n ++ (match h.loopAnswer n with
    | .ok (.admitted tick dec) => [(tick, dec)]
    | _ => [])
  := by
  rw [admitted, List.range_succ, List.filterMap_append]
  congr 1
  rcases hl : h.loopAnswer n with e | ⟨tick, dec⟩ | _ | _ <;> simp [hl]

theorem delivered_succ
    (n : Nat) :
  h.delivered (n + 1) = h.delivered n ++ (match h.answer n with
    | .ok (.item dec) => [dec]
    | _ => [])
  := by
  rw [delivered, List.range_succ, List.filterMap_append]
  congr 1
  rcases ha : h.answer n with e | dec | _ | _ <;> simp [ha]

/-- The decisions delivered are those of the ticks admitted. -/
theorem delivered_eq_admitted
    (n : Nat) :
  h.delivered n = (h.admitted n).filterMap Prod.snd
  := by
  induction n with
  | zero => rfl
  | succ n ih =>
    rw [delivered_succ, admitted_succ, List.filterMap_append, ih, answer_eq]
    rcases h.loopAnswer n with e | ⟨tick, _ | dec⟩ | _ | _ <;> rfl

/-! ### Subscribers -/

/-- A loop whose subscribers raise no ordinary faults is the same loop. -/
theorem loopTurn_hushed
    (n : Nat) (d : Desk ι σ) :
  h.hushed.loopTurn n d = h.loopTurn n d
  := by
  change (h.pipeline.hushed.loopTurn h.ticks (n == 0)).outcome _ _ = _
  rw [h.pipeline.loopTurn_hushed]
  rfl

theorem loop_hushed
    (n : Nat) :
  h.hushed.loop n = h.loop n
  := by
  induction n with
  | zero => rfl
  | succ n ih =>
    rw [loop, loop, ih, loopTurn_hushed]
    rfl

theorem answer_hushed
    (n : Nat) :
  h.hushed.answer n = h.answer n
  := by
  rw [answer_eq, answer_eq, loopAnswer, loopAnswer, loop_hushed, loopTurn_hushed]

/-! ### The laws -/

/-- What makes a run the plain loop. -/
structure FollowsLoop (h : RunHistory ι σ) : Prop where
  /-- Entering the run pushes its frame, under which it is pulled. -/
  entered : h.entered = (.ok (), h.opened false, h.inner, .fresh, h.start)
    ∧ h.inner.stack.current = h.frame
  /-- Every turn answers what the turn of the loop comes to, faults as they leave a drain. -/
  answer : ∀ n, h.answer n = ((h.loopAnswer n).map LoopTurn.pull).mapError Pipeline.faultOut
  /-- Before every turn the desk is that of the loop. -/
  desk : ∀ n, h.desk n = (h.loop n).2
  /-- A tick that is admitted was pulled in that turn, and is admitted under the frame of the
  run. -/
  admits : ∀ n tick dec, h.loopAnswer n = .ok (.admitted tick dec) →
    ∃ d, h.Pulls n tick d
      ∧ (h.pipeline.processTick tick).outcome h.stack d = (.ok dec, h.desk (n + 1))
  /-- The computations that it starts are due under the frame of the run. -/
  framed : ∀ symbol d, ∀ due ∈ ((h.pipeline.ask symbol).outcome h.stack d).2.queue,
    due ∈ d.queue ∨ due.stack = h.stack
  /-- The decisions delivered are those of the ticks admitted, in their order. -/
  delivered : ∀ n, h.delivered n = (h.admitted n).filterMap Prod.snd
  /-- When a decision is delivered, all ticks that were pulled are admitted, and its tick is the
  last of them. -/
  lazily : ∀ n dec, h.answer n = .ok (.item dec) →
    (∃ tick, h.admitted (n + 1) = h.admitted n ++ [(tick, some dec)])
      ∧ ∀ k ≤ n, ∀ tick d, h.Pulls k tick d → ∃ r, h.loopAnswer k = .ok (.admitted tick r)
  /-- Where subscribers leave the subscriptions alone, a decision that is delivered was made as
  without subscribers, and then told to each of them once, in the order of the
  subscriptions. -/
  told : (∀ s dec, (h.pipeline.tell s dec).KeepsSubscribers) →
    ∀ n dec, h.answer n = .ok (.item dec) → ∃ tick d d', h.Pulls n tick d
      ∧ (h.pipeline.silent.processTick tick).outcome h.stack d = (.ok (some dec), d')
      ∧ h.desk (n + 1) = h.pipeline.told h.stack dec d' d'.subscribers
  /-- Subscribers that raise ordinary faults at most change no decision. -/
  undisturbed : (∀ s dec, (h.pipeline.tell s dec).IsOrdinary) → ∀ tick d,
    ((h.pipeline.processTick tick).outcome h.stack d).1
      = ((h.pipeline.silent.processTick tick).outcome h.stack d).1
  /-- Whether subscribers raise their ordinary faults makes no difference to the run. -/
  hushed : ∀ n, h.hushed.answer n = h.answer n ∧ h.hushed.desk n = h.desk n
  /-- A tick whose computation fails is not admitted, with a fault that names the computation and
  carries what it failed with. -/
  starved : ∀ tick d key window job e d',
    (h.pipeline.ask tick.symbol).outcome h.stack d = (.ok (.waiting key window job), d') →
      (h.pipeline.work d').outcome? job = some (.failure e) →
    ((h.pipeline.processTick tick).outcome h.stack d).1
      = .error (.computationFailed (.text key) (.int window) e.said (some e))
  /-- Where a tick cannot be pulled or admitted, the run closes the source and fails, with the
  fault of closing if there is one. -/
  failed : ∀ n e d, h.Live n →
    (h.pipeline.admitNext h.ticks (n == 0)).outcome h.stack (h.consumer n (h.desk n))
      = (.error e, d) →
    h.answer n = .error (Pipeline.faultOut (Pipeline.closeAfter h.ticks h.stack e d).1)
      ∧ h.desk (n + 1) = (Pipeline.closeAfter h.ticks h.stack e d).2
  /-- After a turn that failed or was the last, the run is exhausted and touches nothing. -/
  spent : ∀ n, ¬ h.Live n →
    h.answer n = .ok .done ∧ h.desk (n + 1) = h.consumer n (h.desk n)

variable (h)

/-- Every run is the plain loop over its ticks, turned inside out. -/
theorem run_follows_loop :
  h.FollowsLoop
  := by
  constructor
  case entered => exact ⟨h.entered_eq, rfl⟩
  case answer => apply answer_eq
  case desk => apply desk_eq
  case admits =>
    intro n tick dec ha
    apply pulls_of_admitted ha
  case framed =>
    intro symbol d
    apply h.pipeline.stack_of_ask symbol h.stack d
  case delivered => apply delivered_eq_admitted
  case lazily =>
    intro n dec ha
    constructor
    · obtain ⟨tick, hl⟩ := loopAnswer_of_answer ha
      use tick
      rw [admitted_succ, hl]
    · intro k hk tick d hpulls
      have hlive := live_succ ha nofun
      exact admitted_of_pulls hpulls fun m hm => hlive m (Nat.lt_of_lt_of_le hm (by omega))
  case told =>
    intro hkeeps n dec ha
    obtain ⟨tick, hl⟩ := loopAnswer_of_answer ha
    obtain ⟨d, hpulls, hprocess⟩ := pulls_of_admitted hl
    obtain ⟨d', hsilent, hdesk⟩ := Pipeline.told_of_processTick hkeeps hprocess
    exact ⟨tick, d, d', hpulls, hsilent, hdesk⟩
  case undisturbed =>
    intro hordinary tick d
    apply Pipeline.fst_outcome_processTick hordinary
  case hushed =>
    intro n
    use answer_hushed n
    rw [desk_eq, desk_eq, loop_hushed]
  case starved =>
    intro tick d key window job e d' hask ho
    rw [Pipeline.processTick, Act.outcome_bind, hask]
    dsimp only
    rw [Act.outcome_bind, Act.outcome_modify]
    dsimp only
    rw [Act.outcome_bind, Act.outcome_get]
    dsimp only
    rw [ho]
    rfl
  case failed =>
    intro n e d hlive hadmitted
    have hover := (live_iff n).mp hlive
    have hturn : h.loopTurn n (h.loop n).2
        = (.error (Pipeline.closeAfter h.ticks h.stack e d).1,
            (Pipeline.closeAfter h.ticks h.stack e d).2) := by
      rw [desk_eq] at hadmitted
      apply h.pipeline.outcome_loopTurn_of_error hadmitted
    constructor
    · rw [answer_eq, loopAnswer_of_not_over hover, hturn]
      rfl
    · rw [desk_eq, loop_succ_of_not_over hover, hturn]
  case spent =>
    intro n hlive
    have hover : (h.loop n).1 = true := by
      rw [live_iff] at hlive
      simpa using hlive
    constructor
    · rw [answer_eq, loopAnswer_of_over hover]
      rfl
    · rw [desk_eq, loop_succ_of_over hover, desk_eq]

/-! ### A run that stumbles -/

/-- A pipeline in a world that counts ticks, whose builder buys on some of them and otherwise
raises a fault of some kind.  The first of its subscribers fails. -/
def stumbler (label : String) (buys : Nat → Bool) : Pipeline Nat Nat where
  clock := pure (.int 0)
  indicator _ := pure .null
  builder _ _ := do
    if buys (← get) then return some Registry.buyAtMarket
    else throw (.raised label none)
  tell s _ := if s = 0 then throw (.raised "RuntimeError" none) else pure ()
  newcomers := 0

/-- A source of three ticks of BTC, with a way to be closed or without. -/
def threeTicks (close : Option (Act Nat Unit)) : Source Nat Tick where
  start := some (pure ())
  pull := do
    let n ← get
    if n < 3 then
      set (n + 1)
      return .item ⟨"BTC", .ofInt 100, ⟨1970, 1, 1, 0, 0, 0, 0, none⟩, none, none, none⟩
    else return .done
  close := close

/-- A run of a stumbler over three ticks, with two subscribers, drained by a consumer who does
nothing. -/
def stumbling (label : String) (buys : Nat → Bool) (close : Option (Act Nat Unit)) :
    RunHistory Nat Nat where
  pipeline := stumbler label buys
  ticks := threeTicks close
  frame := ⟨.text "ema", .text "binance", .text "2024-q1", .bool true⟩
  context := ⟨0, []⟩
  start := { (Desk.create .empty .m15 0 0 : Desk Nat Nat) with subscribers := [0, 1] }
  consumer _ d := d
  allDue := (Desk.allDue_create .empty .m15 0 0).of_spares
    ((Desk.create .empty .m15 0 0 : Desk Nat Nat).spares_with .empty [0, 1] 0)
  consumes _ _ hd := hd
  tells s dec := by
    change Act.KeepsDue (if s = 0 then throw (.raised "RuntimeError" none) else pure ())
    split
    · apply Act.keepsDue_throw
    · apply Act.keepsDue_pure

/-- A run over three ticks for which there is no data. -/
def starving : RunHistory Nat Nat :=
  { stumbling "ValueError" (fun _ => true) none with
    pipeline := { stumbler "ValueError" (fun _ => true) with
      indicator := fun _ => throw (.raised "ValueError" (some (.text "no data"))) }
    tells := (stumbling "ValueError" (fun _ => true) none).tells }

/-- What fails in the admission of a tick is not always what is raised: a fault of the indicator
function is raised as a failed computation, the signal of an exhausted source leaves the run as
another fault, and a fault of closing the source takes the place of every other one. -/
theorem fault_of_tick_is_replaced :
  (let h := starving
    ∀ n, ((h.pipeline.indicator "BTC").outcome h.stack n).1
        = .error (.raised "ValueError" (some (.text "no data")))
      ∧ h.answer 0 = .error (.computationFailed (.text "ema:binance:backtest:BTC") (.int 0)
          (.text "no data") (some (.raised "ValueError" (some (.text "no data"))))))
  ∧ (let h := stumbling "StopAsyncIteration" (fun _ => false) none
    ∃ tick d d', h.Pulls 0 tick d
      ∧ (h.pipeline.processTick tick).outcome h.stack d
        = (.error (.raised "StopAsyncIteration" none), d')
      ∧ h.answer 0 = .error
          (.raised "RuntimeError" (some (.text "async generator raised StopAsyncIteration"))))
  ∧ (let h := stumbling "ValueError" (fun _ => false) (some (throw (.raised "OSError" none)))
    ∃ tick d d', h.Pulls 0 tick d
      ∧ (h.pipeline.processTick tick).outcome h.stack d = (.error (.raised "ValueError" none), d')
      ∧ h.answer 0 = .error (.raised "OSError" none))
  := by
  refine ⟨?starved, ?exhausted, ?closing⟩
  case starved => exact fun _ => ⟨rfl, rfl⟩
  case exhausted => exact ⟨_, _, _, ⟨_, rfl, rfl⟩, rfl, rfl⟩
  case closing => exact ⟨_, _, _, ⟨_, rfl, rfl⟩, rfl, rfl⟩

/-- The first tick is bought, whatever its subscribers do; the second fails, and the third is
never pulled. -/
theorem run_follows_loop_stumbling :
  let h := stumbling "ValueError" (fun n => n == 1) none
  (∃ dec tick d d', h.answer 0 = .ok (.item dec) ∧ dec.admitted = true ∧ h.Pulls 0 tick d
    ∧ (h.pipeline.silent.processTick tick).outcome h.stack d = (.ok (some dec), d')
    ∧ h.desk 1 = h.pipeline.told h.stack dec d' d'.subscribers)
  ∧ Pull.ends (h.answer 1) = true ∧ h.answer 2 = .ok .done ∧ (h.desk 3).world = 2
  := by
  intro h
  have hlaws : h.FollowsLoop := run_follows_loop h
  constructor
  · have hkeeps : ∀ s dec, (h.pipeline.tell s dec).KeepsSubscribers := by
      intro s dec stack d
      change ((if s = 0 then throw _ else pure () : Act (Desk Nat Nat) Unit).outcome _ _).2.subscribers = _
      split <;> rfl
    have hitem : (match h.answer 0 with
      | .ok (.item dec) => dec.admitted
      | _ => false) = true := by decide +kernel
    split at hitem
    next dec hanswer =>
      obtain ⟨tick, d, d', htold⟩ := hlaws.told hkeeps 0 dec hanswer
      use dec, tick, d, d', hanswer, hitem
    next => cases hitem
  · have hends : Pull.ends (h.answer 1) = true := by decide +kernel
    have hspent : ¬ h.Live 2 := by
      intro hlive
      simp [hlive 1 (by decide)] at hends
    obtain ⟨hanswer, hdesk⟩ := hlaws.spent 2 hspent
    use hends, hanswer
    rw [hdesk]
    decide +kernel

end RunHistory

end TradeGate
