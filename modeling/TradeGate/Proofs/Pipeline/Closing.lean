import TradeGate.Proofs.Pipeline.Keeping
import TradeGate.Proofs.Pipeline.Run

/-!
# How often a run closes its ticks

A block enters a run, pulls it as often as it likes, and leaves it; between the pulls it may do
anything at the desk, and it may go on in another context.  The world counts how often the tick
source was closed: each closing adds one, whether or not it fails, and nothing else that is
called changes the count.

The run closes its ticks through its drain, and a drain closes them wherever it ends: where the
ticks end, where anything fails, and where it is closed itself.  Only a drain that never began
has nothing to end, so a run that was never pulled leaves its ticks open.
-/

namespace TradeGate

/-- A drain that began and is not over. -/
def DrainPhase.isOpen : DrainPhase → Bool
  | .idle | .waiting .. => true
  | .fresh | .finished => false

/-- A block that enters a run over ticks that can be closed, pulls it and leaves it. -/
structure RunBlock (ι σ : Type) where
  pipeline : Pipeline ι σ
  ticks : Source σ Tick
  close : Act σ Unit
  closable : ticks.close = some close
  frame : Frame
  /-- The context in which the block is entered. -/
  context : Context
  /-- The desk at the entry. -/
  start : Desk ι σ
  /-- Where the block is after so many pulls. -/
  place : Nat → Context
  /-- What the block does at the desk after so many pulls. -/
  meanwhile : Nat → Desk ι σ → Desk ι σ
  /-- How often the tick source was closed. -/
  closings : σ → Nat
  counts : ∀ stack w, closings (close.outcome stack w).2 = closings w + 1
  begins : ∀ n, ∀ a ∈ ticks.start, a.Keeps (closings · = n)
  pulls : ∀ n, ticks.pull.Keeps (closings · = n)
  calls : pipeline.Keeps fun n w => closings w = n
  judges : ∀ n, start.registry.Keeps (closings · = n)
  idles : ∀ k n d, d.Holds (fun n w => closings w = n) n →
    (meanwhile k d).Holds (fun n w => closings w = n) n

namespace RunBlock

open Pipeline

variable {ι σ : Type} (h : RunBlock ι σ)

/-- The decisions as a source. -/
def drain : Source (DrainState ι σ) Decision :=
  h.pipeline.drain h.ticks

/-- Entering the run. -/
def entered : Except Fault Unit × Stream × Context × DrainState ι σ :=
  (Stream.create h.frame).enter h.drain h.context (.fresh, h.start)

/-- The stream and the state of the drain after so many pulls. -/
def state : Nat → Stream × DrainState ι σ
  | 0 => (h.entered.2.1, h.entered.2.2.2)
  | n + 1 =>
    ((state n).1.next h.drain (h.place n) ((state n).2.1, h.meanwhile n (state n).2.2)).2

/-- Leaving the run after so many pulls. -/
def left (n : Nat) : Except Fault Unit × Stream × Context × DrainState ι σ :=
  (h.state n).1.exit h.drain (h.place n) ((h.state n).2.1, h.meanwhile n (h.state n).2.2)

/-- The stream of the run. -/
def opened (finished : Bool) : Stream :=
  ⟨h.frame, some ⟨h.context.id, h.context.stack⟩, true, finished⟩

/-! ### The count along a drain -/

/-- The ticks were closed so often. -/
def Counts (n : Nat) (d : Desk ι σ) : Prop :=
  d.Holds (fun n w => h.closings w = n) n

/-- The drain began and is not over, and the ticks were closed so often. -/
def Open (n : Nat) (s : DrainState ι σ) : Prop :=
  s.1.isOpen = true ∧ h.Counts n s.2

/-- The drain is over, and the ticks were closed so often. -/
def Over (n : Nat) (s : DrainState ι σ) : Prop :=
  s.1 = .finished ∧ h.Counts n s.2

variable {h} {n : Nat}

theorem Counts.closeTicks
    {d : Desk ι σ} (hd : h.Counts n d) (stack : Stack) :
  h.Counts (n + 1) ((Pipeline.closeTicks h.ticks).outcome stack d).2
  := by
  have hrun : (Pipeline.closeTicks (ι := ι) h.ticks).outcome stack d
      = (Desk.lift h.close).outcome stack d := by
    rw [Pipeline.closeTicks, h.closable]
  rw [hrun]
  constructor
  case registry => apply hd.registry
  case world =>
    have hworld : h.closings d.world = n := hd.world
    change h.closings (h.close.outcome stack d.world).2 = n + 1
    rw [h.counts, hworld]

theorem finishDrain_over
    {s : DrainState ι σ} (hs : h.Counts n s.2) (stack : Stack) :
  h.Over (n + 1) ((finishDrain h.ticks).outcome stack s).2
  := by
  rw [outcome_finishDrain]
  exact ⟨rfl, hs.closeTicks stack⟩

theorem keeps_onDesk
    {α : Type} {a : Act (Desk ι σ) α} (ha : a.Keeps (h.Counts n)) :
  (onDesk a).Keeps (h.Open n)
  := by
  intro stack s hs
  rw [outcome_onDesk]
  exact ⟨hs.1, ha stack s.2 hs.2⟩

theorem keeps_setPhase
    {f : DrainPhase} (hf : f.isOpen = true) :
  (setPhase f).Keeps (h.Open n)
  := fun _ _ hs => ⟨hf, hs.2⟩

theorem keeps_deliver
    (dec : Option Decision) :
  (deliver dec).Keeps (h.Open n)
  := by
  apply (keeps_setPhase rfl).bind
  intro _
  cases dec with
  | none => apply Act.keeps_pure
  | some dec => apply Act.keeps_pure

theorem keeps_startTicks :
  (startTicks h.ticks).Keeps (h.Open n)
  := by
  rw [startTicks_eq]
  apply keeps_onDesk
  unfold beginTicks
  cases hstart : h.ticks.start with
  | none => apply Act.keeps_throw
  | some a => apply Desk.keeps_lift (h.begins n a hstart)

theorem keeps_pullTick :
  (h.pipeline.pullTick h.ticks).Keeps (h.Open n)
  := by
  apply (keeps_onDesk (Desk.keeps_lift (h.pulls n))).bind
  rintro (tick | _ | _)
  · apply (keeps_onDesk (h.calls.ask n tick.symbol)).bind
    rintro (v | ⟨key, window, job⟩)
    · apply (keeps_onDesk (h.calls.conclude n tick v)).bind
      apply keeps_deliver
    · apply (keeps_setPhase rfl).bind
      intro _
      apply Act.keeps_pure
  · apply Act.keeps_pure
  · apply Act.keeps_pure

theorem Counts.closeAfter
    {d : Desk ι σ} (hd : h.Counts n d) (stack : Stack) (e : Fault) :
  h.Counts (n + 1) (Pipeline.closeAfter h.ticks stack e d).2
  := by
  rw [Pipeline.snd_closeAfter]
  exact hd.closeTicks stack

/-- An action that keeps a drain open leaves it open, or fails with the drain over and the
ticks closed once more. -/
theorem orFinish_cases
    {α : Type} {a : Act (DrainState ι σ) α} (ha : a.Keeps (h.Open n)) {s : DrainState ι σ}
    (hs : h.Open n s) (stack : Stack) :
  (∃ x s', a.outcome stack s = (.ok x, s')
    ∧ (orFinish h.ticks a).outcome stack s = (.ok x, s') ∧ h.Open n s')
  ∨ ∃ e s', (orFinish h.ticks a).outcome stack s = (.error e, s') ∧ h.Over (n + 1) s'
  := by
  have hopen := ha stack s hs
  rcases hrun : a.outcome stack s with ⟨e | x, s'⟩
  · rw [hrun] at hopen
    right
    refine ⟨_, _, outcome_orFinish_of_error hrun, rfl, ?_⟩
    apply hopen.2.closeAfter stack e
  · rw [hrun] at hopen
    left
    use x, s', rfl, outcome_orFinish_of_ok hrun

/-- A pull of the drain that ends it closes the ticks, and one that does not leaves them
open. -/
def Accounts (h : RunBlock ι σ) (n : Nat) (o : Except Fault (Pull Decision) × DrainState ι σ) :
    Prop :=
  if Pull.ends o.1 then h.Over (n + 1) o.2 else h.Open n o.2

theorem nextTick_accounts
    {s : DrainState ι σ} (hs : h.Open n s) (stack : Stack) :
  h.Accounts n ((h.pipeline.nextTick h.ticks).outcome stack s)
  := by
  rw [nextTick, Act.outcome_bind]
  obtain ⟨r, s', -, hpull, hs'⟩ | ⟨e, s', hpull, hs'⟩ := orFinish_cases keeps_pullTick hs stack
  · rw [hpull]
    cases r with
    | item dec => apply hs'
    | later => apply hs'
    | done =>
      have hover := finishDrain_over hs'.2 stack
      dsimp only
      rw [Act.outcome_bind]
      rcases hfinish : (finishDrain h.ticks).outcome stack s' with ⟨e | x, s''⟩
      · rwa [hfinish] at hover
      · rwa [hfinish] at hover
  · rw [hpull]
    apply hs'

/-- What is received for a tick is delivered, and the drain goes on; else it is over. -/
theorem receive_accounts
    {s : DrainState ι σ} (hs : h.Open n s) (stack : Stack) (tick : Tick) (key : String)
    (window : Int) (o : Outcome Value) :
  h.Accounts n
    ((orFinish h.ticks (onDesk (h.pipeline.receive tick key window o) >>= deliver)).outcome stack s)
  := by
  have hkeeps : (onDesk (h.pipeline.receive tick key window o) >>= deliver).Keeps (h.Open n) := by
    apply (keeps_onDesk (h.calls.receive n tick key window o)).bind
    apply keeps_deliver
  obtain ⟨r, s', hrun, hfinish, hs'⟩ | ⟨e, s', hfinish, hs'⟩ := orFinish_cases hkeeps hs stack
  · obtain ⟨dec, s'', -, hdeliver⟩ := Act.outcome_bind_eq_ok hrun
    rw [hfinish]
    cases dec with
    | none =>
      cases hdeliver
      apply hs'
    | some dec =>
      cases hdeliver
      apply hs'
  · rw [hfinish]
    apply hs'

/-- Every step of a drain that is not over accounts for the ticks. -/
theorem stepDrain_accounts
    {s : DrainState ι σ} (hs : s.1 ≠ .finished) (hn : h.Counts n s.2) (stack : Stack) :
  h.Accounts n ((h.pipeline.stepDrain h.ticks).outcome stack s)
  := by
  obtain ⟨phase, d⟩ := s
  cases phase with
  | finished => exact absurd rfl hs
  | idle => apply nextTick_accounts ⟨rfl, hn⟩ stack
  | fresh =>
    have hidle : h.Open n (.idle, d) := ⟨rfl, hn⟩
    rw [outcome_stepDrain_fresh, Act.outcome_bind]
    obtain ⟨x, s', -, hstart, hs'⟩ | ⟨e, s', hstart, hs'⟩ :=
      orFinish_cases keeps_startTicks hidle stack
    · rw [hstart]
      apply nextTick_accounts hs' stack
    · rw [hstart]
      apply hs'
  | waiting tick key window job =>
    have hwaiting : h.Open n (.waiting tick key window job, d) := ⟨rfl, hn⟩
    rw [stepDrain, Act.outcome_bind]
    cases ho : d.outcome? job with
    | none =>
      simp only [Act.outcome_bind, Act.outcome_get, ho]
      apply hwaiting
    | some o =>
      simp only [Act.outcome_bind, Act.outcome_get, ho]
      apply receive_accounts hwaiting stack tick key window o

/-- A pull of the decisions accounts for the ticks as the step of their drain. -/
theorem pull_accounts
    {s : DrainState ι σ} (hs : s.1 ≠ .finished) (hn : h.Counts n s.2) (stack : Stack) :
  h.Accounts n (h.drain.pull.outcome stack s)
  := by
  have hstep := stepDrain_accounts hs hn stack
  change h.Accounts n ((fromDrain (h.pipeline.stepDrain h.ticks)).outcome stack s)
  rw [outcome_fromDrain, Accounts, RunHistory.ends_mapError]
  apply hstep

/-! ### The count along a block -/

/-- How a block stands after so many pulls, where the ticks had been closed `k` times at the
entry. -/
inductive Standing (h : RunBlock ι σ) (k : Nat) : Nat → Stream × DrainState ι σ → Prop
  | fresh {d : Desk ι σ} : h.Counts k d → Standing h k 0 (h.opened false, .fresh, d)
  | going {n : Nat} {s : DrainState ι σ} :
      h.Open k s → Standing h k (n + 1) (h.opened false, s)
  | done {n : Nat} {s : DrainState ι σ} :
      h.Over (k + 1) s → Standing h k (n + 1) (h.opened true, s)

variable {k : Nat} {x : Stream × DrainState ι σ}

/-- What is done between the pulls changes nothing about how the block stands. -/
theorem Standing.meanwhile
    (hx : h.Standing k n x) (m : Nat) :
  h.Standing k n (x.1, x.2.1, h.meanwhile m x.2.2)
  := by
  cases hx with
  | fresh hd => exact .fresh (h.idles m k _ hd)
  | going hs => exact .going ⟨hs.1, h.idles m k _ hs.2⟩
  | done hs => exact .done ⟨hs.1, h.idles m (k + 1) _ hs.2⟩

theorem Open.ne_finished
    {s : DrainState ι σ} (hs : h.Open n s) :
  s.1 ≠ .finished
  := by
  intro hphase
  have hopen := hs.1
  rw [hphase] at hopen
  cases hopen

/-- A pull of a stream that is not exhausted accounts for the ticks. -/
theorem standing_of_pull
    {s : DrainState ι σ} (hs : s.1 ≠ .finished) (hk : h.Counts k s.2) (c : Context) (n : Nat) :
  h.Standing k (n + 1) ((h.opened false).next h.drain c s).2
  := by
  have hpull := pull_accounts hs hk c.stack
  rw [Stream.next_of_open h.drain c s rfl rfl rfl]
  rcases hrun : h.drain.pull.outcome c.stack s with ⟨r, s'⟩
  rw [hrun, Accounts] at hpull
  cases hends : Pull.ends r with
  | true =>
    rw [hends] at hpull
    dsimp only
    rw [hends]
    exact .done hpull
  | false =>
    rw [hends] at hpull
    dsimp only
    rw [hends]
    exact .going hpull

theorem Standing.pull
    (hx : h.Standing k n x) (c : Context) :
  h.Standing k (n + 1) (x.1.next h.drain c x.2).2
  := by
  cases hx with
  | fresh hd =>
    have hfresh : DrainPhase.fresh ≠ .finished := nofun
    apply standing_of_pull hfresh hd c 0
  | going hs => apply standing_of_pull hs.ne_finished hs.2 c _
  | done hs =>
    rw [Stream.next_of_finished h.drain rfl]
    exact .done hs

theorem standing
    (hk : h.closings h.start.world = k) (n : Nat) :
  h.Standing k n (h.state n)
  := by
  induction n with
  | zero => exact .fresh ⟨h.judges, hk⟩
  | succ n ih => exact (ih.meanwhile n).pull (h.place n)

/-- An open drain that is closed closes the ticks. -/
theorem closing_of_open
    {s : DrainState ι σ} (hs : h.Open k s) (stack : Stack) :
  h.Counts (k + 1) (Stream.closing h.drain (h.opened false) s stack).2.2
  := by
  obtain ⟨phase, d⟩ := s
  have hclose : (closeDrain h.ticks).outcome stack (phase, d)
      = (finishDrain h.ticks).outcome stack (phase, d) := by
    cases phase with
    | idle => rfl
    | waiting tick key window job => rfl
    | fresh => cases hs.1
    | finished => cases hs.1
  change h.Counts (k + 1) ((fromDrain (closeDrain h.ticks)).outcome stack (phase, d)).2.2
  rw [outcome_fromDrain, hclose]
  exact (finishDrain_over hs.2 stack).2

/-- Leaving a run closes the ticks if its drain began and is not over. -/
theorem Standing.leave
    (hx : h.Standing k n x) (stack : Stack) :
  h.Counts (k + if n = 0 then 0 else 1) (Stream.closing h.drain x.1 x.2 stack).2.2
  := by
  cases hx with
  | fresh hd =>
    -- the drain never began, and its end runs nothing
    apply hd
  | going hs => apply closing_of_open hs stack
  | done hs => apply hs.2

theorem Standing.scope
    (hx : h.Standing k n x) :
  x.1.scope = some ⟨h.context.id, h.context.stack⟩
  := by
  cases hx <;> rfl

/-- A run that was pulled has closed its ticks exactly once when the block is left, whether they
ended, anything failed or the block was just left; a run that was never pulled has not closed
them.  The frame is popped, and the stack is that from before the block. -/
theorem closed_once_unless_never_pulled
    (h : RunBlock ι σ) (n : Nat) :
  h.closings (h.left n).2.2.2.2.world
      = h.closings h.start.world + (if n = 0 then 0 else 1)
    ∧ (h.left n).2.1.active = false
    ∧ (h.left n).2.2.1 = { h.place n with stack := h.context.stack }
  := by
  have hstanding := (h.standing rfl n).meanwhile n
  have hleft := Stream.exit_of_active h.drain (h.place n)
    ((h.state n).2.1, h.meanwhile n (h.state n).2.2) hstanding.scope
  rw [left, hleft]
  refine ⟨?_, rfl, rfl⟩
  exact (hstanding.leave (h.place n).stack).world

/-! ### A run over two ticks -/

/-- Buys at every tick.  The world counts the ticks that were given, and how often they were
closed. -/
def buysAlways : Pipeline Empty (Nat × Nat) where
  clock := pure (.int 0)
  indicator _ := pure .null
  builder _ _ := pure (some Registry.buyAtMarket)
  tell := nofun
  newcomers := 0

/-- Two ticks of BTC. -/
def twoTicks : Source (Nat × Nat) Tick where
  start := some (pure ())
  pull := do
    let (given, closed) ← get
    if given < 2 then
      set (given + 1, closed)
      return .item ⟨"BTC", .ofInt 100, ⟨1970, 1, 1, 0, 0, 0, 0, none⟩, none, none, none⟩
    else return .done
  close := some (modify fun w => (w.1, w.2 + 1))

theorem buysAlways_keeps :
  buysAlways.Keeps fun (n : Nat) w => w.2 = n
  where
  clock _ := Act.keeps_pure _
  indicator _ _ := Act.keeps_pure _
  builder _ _ _ := Act.keeps_pure _
  tell _ := nofun

/-- A block that runs over two ticks, and works off what is due between its pulls. -/
def overTwoTicks : RunBlock Empty (Nat × Nat) where
  pipeline := buysAlways
  ticks := twoTicks
  close := modify fun w => (w.1, w.2 + 1)
  closable := rfl
  frame := .empty
  context := ⟨0, []⟩
  start := .create ⟨[], []⟩ .m15 100 (0, 0)
  place _ := ⟨0, [.empty]⟩
  meanwhile _ d := buysAlways.work d
  closings w := w.2
  counts _ _ := rfl
  begins _ := by
    rintro a ⟨⟩
    apply Act.keeps_pure
  pulls n := by
    rintro stack ⟨given, closed⟩ hw
    change (((if given < 2 then _ else _ : Act (Nat × Nat) (Pull Tick)).outcome stack
      (given, closed)).2).2 = n
    split <;> exact hw
  calls := buysAlways_keeps
  judges _ := nofun
  idles _ _ _ hd := buysAlways_keeps.work hd

/-- After two pulls one of the ticks was decided on, and the other one was not asked for; leaving
closes them once. -/
theorem closed_once_unless_never_pulled_overTwoTicks :
  (overTwoTicks.state 2).2.2.world = (1, 0)
    ∧ (overTwoTicks.left 2).2.2.2.2.world.2 = 1
    ∧ (overTwoTicks.left 2).2.2.1.stack = []
  := by
  obtain ⟨hclosed, -, hstack⟩ := closed_once_unless_never_pulled overTwoTicks 2
  use by decide +kernel, hclosed
  rw [hstack]
  rfl

/-! ### A run that was never pulled -/

/-- Proposes no signals. -/
def proposesNothing : Pipeline Empty Nat where
  clock := pure (.int 0)
  indicator _ := pure .null
  builder _ _ := pure none
  tell := nofun
  newcomers := 0

/-- No ticks; the world counts how often they were closed. -/
def noTicks : Source Nat Tick where
  start := some (pure ())
  pull := pure .done
  close := some (modify (· + 1))

theorem proposesNothing_keeps :
  proposesNothing.Keeps fun (n : Nat) w => w = n
  where
  clock _ := Act.keeps_pure _
  indicator _ _ := Act.keeps_pure _
  builder _ _ _ := Act.keeps_pure _
  tell _ := nofun

/-- A block that runs over no ticks under an empty frame, and works off what is due between its
pulls. -/
def overNoTicks : RunBlock Empty Nat where
  pipeline := proposesNothing
  ticks := noTicks
  close := modify (· + 1)
  closable := rfl
  frame := .empty
  context := ⟨0, []⟩
  start := .create ⟨[], []⟩ .m15 100 0
  place _ := ⟨0, [.empty]⟩
  meanwhile _ d := proposesNothing.work d
  closings w := w
  counts _ _ := rfl
  begins _ := by
    rintro a ⟨⟩
    apply Act.keeps_pure
  pulls _ := Act.keeps_pure _
  calls := proposesNothing_keeps
  judges _ := nofun
  idles _ _ _ hd := proposesNothing_keeps.work hd

/-- A block that is left without a pull leaves the ticks open. -/
theorem overNoTicks_never_closed :
  overNoTicks.closings (overNoTicks.left 0).2.2.2.2.world
    ≠ overNoTicks.closings overNoTicks.start.world + 1
  := by decide

end RunBlock

end TradeGate
