import TradeGate.Proofs.Pipeline.Journaling
import TradeGate.Proofs.Pipeline.Loop
import TradeGate.Proofs.Risk.FirstFailure
import TradeGate.Proofs.Stream.History
import Mathlib.Data.List.Forall2

/-!
# Sessions of runs and their journal

In a session runs are entered one after the other, each with ticks and a frame of its own, pulled
as often as the consumer likes, and left at any time; between that the consumer may do anything at
the desk that leaves the journal and its subscription alone.  At every moment the journal has one
row for each decision that was delivered, in their order, tagged with the frame of the run that
the decision came from, as long as the subscribers leave the journal its turn.
-/

namespace TradeGate

variable {ι σ : Type}

/-! ### Sources and items -/

/-- A source that keeps the properties of a family, however it is touched. -/
structure Source.Keeps {ν α : Type} (P : ν → σ → Prop) (source : Source σ α) : Prop where
  start : ∀ n, ∀ a ∈ source.start, a.Keeps (P n)
  pull : ∀ n, source.pull.Keeps (P n)
  close : ∀ n, ∀ a ∈ source.close, a.Keeps (P n)

/-- The item that a pull gives. -/
def Pull.item? {α : Type} : Pull α → Option α
  | item a => some a
  | done | later => none

/-! ### Sessions -/

/-- A run that was entered and not left. -/
structure OpenRun (σ : Type) where
  ticks : Source σ Tick
  frame : Frame
  stream : Stream
  phase : DrainPhase

/-- Where a session is. -/
structure Session (ι σ : Type) where
  /-- The context of the consumer. -/
  context : Context
  desk : Desk ι σ
  /-- The run that the consumer is in, if it is in one. -/
  run : Option (OpenRun σ)
  /-- The decisions that were delivered, each with the frame of its run. -/
  delivered : List (Decision × Frame)

/-- What a consumer does. -/
inductive SessionMove (ι σ : Type) where
  | enter (ticks : Source σ Tick) (frame : Frame)
  | pull
  | leave
  /-- Something else at the desk. -/
  | act (f : Desk ι σ → Desk ι σ)

namespace Session

variable (p : Pipeline ι σ)

/-- A session that begins. -/
def start (c : Context) (d : Desk ι σ) : Session ι σ :=
  ⟨c, d, none, []⟩

/-- The decision that a pull of a run gives, with the frame of the run. -/
def given (f : Frame) : Except Fault (Pull Decision) → List (Decision × Frame)
  | .ok (.item dec) => [(dec, f)]
  | _ => []

/-- A pull of a run that was entered. -/
def next (s : Session ι σ) (r : OpenRun σ) :
    Except Fault (Pull Decision) × Stream × Pipeline.DrainState ι σ :=
  r.stream.next (p.drain r.ticks) s.context (r.phase, s.desk)

/-- The session after a move.  A run is entered only outside of the others; outside of a run there
is nothing to pull or to leave. -/
def step (s : Session ι σ) : SessionMove ι σ → Session ι σ
  | .enter ticks frame =>
    match s.run with
    | some _ => s
    | none =>
      let (_, stream, c, phase, d) :=
        (Stream.create frame).enter (p.drain ticks) s.context (.fresh, s.desk)
      { s with context := c, desk := d, run := some ⟨ticks, frame, stream, phase⟩ }
  | .pull =>
    match s.run with
    | none => s
    | some r =>
      let (x, stream, phase, d) := s.next p r
      { s with
        desk := d
        run := some { r with stream := stream, phase := phase }
        delivered := s.delivered ++ given r.frame x }
  | .leave =>
    match s.run with
    | none => s
    | some r =>
      let (_, _, c, _, d) := r.stream.exit (p.drain r.ticks) s.context (r.phase, s.desk)
      { s with context := c, desk := d, run := none }
  | .act f => { s with desk := f s.desk }

/-- The session after some moves. -/
def after (s : Session ι σ) (moves : List (SessionMove ι σ)) : Session ι σ :=
  moves.foldl (step p) s

/-- What a move answers, and the frame of the run: only pulls of a run answer. -/
def answer? (s : Session ι σ) : SessionMove ι σ → Option (Frame × Except Fault (Pull Decision))
  | .pull => s.run.map fun r => (r.frame, (s.next p r).1)
  | _ => none

end Session

/-- A row tells of a decision under a frame. -/
structure JournalRow.Tells (row : JournalRow) (dec : Decision) (f : Frame) : Prop where
  symbol : row.symbol = dec.signal.symbol
  verdict : row.verdict = dec.verdict
  riskName : row.riskName = dec.riskName
  reason : row.reason = dec.reason
  side : row.side = dec.signal.side
  openPrice : row.openPrice = dec.signal.openPrice
  takeProfit : row.takeProfit = dec.signal.takeProfit
  stopLoss : row.stopLoss = dec.signal.stopLoss
  timestamp : row.timestamp = dec.timestamp
  strategy : row.strategy = f.strategy
  exchange : row.exchange = f.exchange
  frameName : row.frameName = f.name
  mode : row.mode = if f.backtest.truth then "backtest" else "live"

theorem JournalRow.tells_ofDecision
    (dec : Decision) (f : Frame) :
  (ofDecision dec f).Tells dec f
  := by
  constructor <;> rfl

namespace JournaledPipeline

open Pipeline

variable [DecidableEq ι] (h : JournaledPipeline ι σ)

/-- The ticks of a run, and what is done at the desk, leave the journal alone. -/
def Admits : SessionMove ι σ → Prop
  | .enter ticks _ => ticks.Keeps fun j w => h.journal w = j
  | .act f => ∀ j d, h.Logs j d → h.Logs j (f d)
  | .pull | .leave => True

/-- How the journal stands after a pull of a drain, where it had the rows of `j`. -/
def AccountsPull (j : Journal) (f : Frame)
    (o : Except Fault (Pull Decision) × DrainState ι σ) : Prop :=
  h.Accounts j f (o.1.map Pull.item?) o.2.2

variable {h} {j : Journal} {ticks : Source σ Tick} {stack : Stack} {s : DrainState ι σ}

/-! ### One pull -/

theorem keeps_onDesk_logs
    {α : Type} {a : Act (Desk ι σ) α} (ha : a.Keeps (h.Logs j)) :
  (onDesk a).Keeps fun s => h.Logs j s.2
  := by
  intro stack s hs
  rw [outcome_onDesk]
  exact ha stack s.2 hs

/-- An action that accounts for its decision does so when it is delivered. -/
theorem accounts_deliver
    {a : Act (Desk ι σ) (Option Decision)} {f : Frame}
    (ha : h.Accounts j f (a.outcome stack s.2).1 (a.outcome stack s.2).2) :
  h.AccountsPull j f ((onDesk a >>= deliver).outcome stack s)
  := by
  rw [Act.outcome_bind, outcome_onDesk]
  rcases hrun : a.outcome stack s.2 with ⟨e | _ | dec, d⟩
  · rwa [hrun] at ha
  · rwa [hrun] at ha
  · rwa [hrun] at ha

section Ticks

variable (hticks : ticks.Keeps fun j w => h.journal w = j)

include hticks

theorem keeps_logs_closeTicks :
  (closeTicks ticks).Keeps (h.Logs j)
  := by
  unfold closeTicks
  cases hclose : ticks.close with
  | none => apply Act.keeps_pure
  | some a => exact keeps_logs_lift (hticks.close j a hclose)

theorem keeps_logs_finishDrain :
  (finishDrain ticks).Keeps fun s => h.Logs j s.2
  := by
  intro stack s hs
  rw [outcome_finishDrain]
  exact keeps_logs_closeTicks hticks stack s.2 hs

theorem Logs.closeAfter
    {d : Desk ι σ} (hd : h.Logs j d) (stack : Stack) (e : Fault) :
  h.Logs j (Pipeline.closeAfter ticks stack e d).2
  := by
  rw [Pipeline.snd_closeAfter]
  exact keeps_logs_closeTicks hticks stack d hd

/-- Closing the ticks after a fault does not touch the journal. -/
theorem accounts_orFinish
    {a : Act (DrainState ι σ) (Pull Decision)} {f : Frame}
    (ha : h.AccountsPull j f (a.outcome stack s)) :
  h.AccountsPull j f ((orFinish ticks a).outcome stack s)
  := by
  rcases hrun : a.outcome stack s with ⟨e | x, s'⟩
  · rw [hrun] at ha
    rw [outcome_orFinish_of_error hrun]
    obtain hsame | ⟨ho, dec, hrow⟩ := ha
    · exact .inl (hsame.closeAfter hticks stack e)
    · exact .inr ⟨ho, dec, hrow.closeAfter hticks stack e⟩
  · rwa [outcome_orFinish_of_ok hrun, ← hrun]

theorem accounts_pullTick
    (hturn : h.KeepsTurn) (hs : h.Logs j s.2) (stack : Stack) :
  h.AccountsPull j stack.current ((h.pipeline.pullTick ticks).outcome stack s)
  := by
  have hpull := keeps_onDesk_logs (keeps_logs_lift (hticks.pull j)) stack s hs
  rw [pullTick, Act.outcome_bind]
  rcases hrun : (onDesk (Desk.lift ticks.pull)).outcome stack s with ⟨e | tick | _ | _, s₁⟩
  · rw [hrun] at hpull
    exact .inl hpull
  · rw [hrun] at hpull
    have hask := keeps_onDesk_logs (keeps_logs_ask tick.symbol) stack s₁ hpull
    dsimp only
    rw [Act.outcome_bind]
    rcases hrun' : (onDesk (h.pipeline.ask tick.symbol)).outcome stack s₁
      with ⟨e | x | ⟨key, window, job⟩, s₂⟩
    · rw [hrun'] at hask
      exact .inl hask
    · rw [hrun'] at hask
      exact accounts_deliver (accounts_conclude hturn hask tick x stack)
    · rw [hrun'] at hask
      exact hask
  · rwa [hrun] at hpull
  · rwa [hrun] at hpull

theorem accounts_nextTick
    (hturn : h.KeepsTurn) (hs : h.Logs j s.2) (stack : Stack) :
  h.AccountsPull j stack.current ((h.pipeline.nextTick ticks).outcome stack s)
  := by
  have hpull := accounts_orFinish hticks (accounts_pullTick hticks hturn hs stack)
  rw [nextTick, Act.outcome_bind]
  rcases hrun : (orFinish ticks (h.pipeline.pullTick ticks)).outcome stack s
    with ⟨e | dec | _ | _, s'⟩
  · rwa [hrun] at hpull
  · rwa [hrun] at hpull
  · rw [hrun] at hpull
    have hfinish := keeps_logs_finishDrain hticks stack s' hpull
    dsimp only
    rw [Act.outcome_bind]
    rcases hrun' : (finishDrain ticks).outcome stack s' with ⟨e | ⟨⟩, s''⟩
    · rw [hrun'] at hfinish
      exact .inl hfinish
    · rwa [hrun'] at hfinish
  · rwa [hrun] at hpull

/-- Every step of a drain accounts for the decision that it gives. -/
theorem accounts_stepDrain
    (hturn : h.KeepsTurn) (hs : h.Logs j s.2) (stack : Stack) :
  h.AccountsPull j stack.current ((h.pipeline.stepDrain ticks).outcome stack s)
  := by
  obtain ⟨phase, d⟩ := s
  cases phase with
  | finished => exact hs
  | idle => exact accounts_nextTick hticks hturn hs stack
  | fresh =>
    have hbegin : (beginTicks ticks).Keeps (h.Logs j) := by
      unfold beginTicks
      cases hstart : ticks.start with
      | none => apply Act.keeps_throw
      | some a => exact keeps_logs_lift (hticks.start j a hstart)
    have hstart : (orFinish ticks (startTicks ticks)).Keeps fun s => h.Logs j s.2 := by
      rw [startTicks_eq]
      apply (keeps_onDesk_logs hbegin).tryCatch
      intro e
      apply (keeps_logs_finishDrain hticks).bind
      intro _
      apply Act.keeps_throw
    have hidle := hstart stack (.idle, d) hs
    rw [outcome_stepDrain_fresh, Act.outcome_bind]
    rcases hrun : (orFinish ticks (startTicks ticks)).outcome stack (.idle, d) with ⟨e | x, s'⟩
    · rw [hrun] at hidle
      exact .inl hidle
    · rw [hrun] at hidle
      exact accounts_nextTick hticks hturn hidle stack
  | waiting tick key window job =>
    rw [stepDrain, Act.outcome_bind]
    cases ho : d.outcome? job with
    | none =>
      simp only [Act.outcome_bind, Act.outcome_get, ho]
      exact hs
    | some o =>
      simp only [Act.outcome_bind, Act.outcome_get, ho]
      apply accounts_orFinish hticks
      exact accounts_deliver (accounts_receive hturn hs tick key window o stack)

/-- So does every pull of a stream that is open. -/
theorem accounts_next
    (hturn : h.KeepsTurn) (hs : h.Logs j s.2) {stream : Stream} (ha : stream.active = true)
    (ho : stream.opened = true) (c : Context) :
  let o := stream.next (h.pipeline.drain ticks) c s
  h.AccountsPull j c.stack.current (o.1, o.2.2)
  := by
  dsimp only
  cases hfinished : stream.finished with
  | true =>
    rw [Stream.next_of_finished _ hfinished]
    exact hs
  | false =>
    have hstep := accounts_stepDrain hticks hturn hs c.stack
    have hpull : (h.pipeline.drain ticks).pull.outcome c.stack s
        = (((h.pipeline.stepDrain ticks).outcome c.stack s).1.mapError faultOut,
            ((h.pipeline.stepDrain ticks).outcome c.stack s).2) := outcome_fromDrain _ c.stack s
    rw [Stream.next_of_open _ _ _ ha ho hfinished, hpull]
    rcases hrun : (h.pipeline.stepDrain ticks).outcome c.stack s with ⟨e | x, s'⟩
    · rwa [hrun] at hstep
    · rwa [hrun] at hstep

/-- Leaving a run does not touch the journal. -/
theorem logs_exit
    (hs : h.Logs j s.2) (stream : Stream) (c : Context) :
  h.Logs j (stream.exit (h.pipeline.drain ticks) c s).2.2.2.2
  := by
  have hclose : (closeDrain ticks).Keeps fun s => h.Logs j s.2 := by
    intro stack s hs
    obtain ⟨phase, d⟩ := s
    cases phase with
    | fresh => exact hs
    | finished => exact hs
    | idle => exact keeps_logs_finishDrain hticks stack _ hs
    | waiting tick key window job => exact keeps_logs_finishDrain hticks stack _ hs
  have hclosing : h.Logs j (Stream.closing (h.pipeline.drain ticks) stream s c.stack).2.2 := by
    rw [Stream.closing]
    change h.Logs j (if stream.closesSource then
      (fromDrain (closeDrain ticks)).outcome c.stack s else (.ok (), s)).2.2
    split
    · rw [outcome_fromDrain]
      exact hclose c.stack s hs
    · exact hs
  exact hclosing

end Ticks

/-! ### One move -/

variable (h) in
/-- Where a session stands: the journal has the rows of `j`, and the run that the consumer is in,
if there is one, is pulled under its frame. -/
structure Standing (j : Journal) (s : Session ι σ) : Prop where
  logs : h.Logs j s.desk
  run : ∀ r ∈ s.run, r.ticks.Keeps (fun j w => h.journal w = j) ∧ r.stream.active = true
    ∧ r.stream.opened = true ∧ s.context.stack.current = r.frame

variable (h) in
/-- How the rows of a journal go on, by the answer to a move.  A decision that is given has a row,
and nothing else has one, unless a subscriber can raise a fault that is not ordinary: then a pull
that fails may leave the row of a decision that it did not give. -/
def GoesOn (j j' : Journal) : Option (Frame × Except Fault (Pull Decision)) → Prop
  | some (f, .ok (.item dec)) => ∃ row, j'.rows = j.rows ++ [row] ∧ row.Tells dec f
  | some (f, .error _) => j'.rows = j.rows
    ∨ ¬ h.Ordinary ∧ ∃ row dec, j'.rows = j.rows ++ [row] ∧ row.Tells dec f
  | _ => j'.rows = j.rows

variable {s : Session ι σ}

theorem Standing.pull
    (hturn : h.KeepsTurn) (hs : h.Standing j s) {r : OpenRun σ} (hr : s.run = some r) :
  ∃ j', h.Standing j' (s.step h.pipeline .pull)
    ∧ h.GoesOn j j' (some (r.frame, (s.next h.pipeline r).1))
  := by
  obtain ⟨hticks, hactive, hopened, hframe⟩ := hs.run r hr
  have hlogs : h.Logs j ((r.phase, s.desk) : DrainState ι σ).2 := hs.logs
  have hnext := accounts_next hticks hturn hlogs hactive hopened s.context
  have hstream := Stream.next_keeps (h.pipeline.drain r.ticks) r.stream s.context (r.phase, s.desk)
  rw [hframe] at hnext
  -- the stream stays entered, whatever the pull gives
  have hstanding {j' : Journal} (hj' : h.Logs j' (s.next h.pipeline r).2.2.2) :
      h.Standing j' (s.step h.pipeline .pull) := by
    rw [Session.step, hr]
    refine ⟨hj', ?_⟩
    rintro r' ⟨rfl⟩
    exact ⟨hticks, (congrArg Option.isSome hstream.1).trans hactive, hstream.2.trans hopened, hframe⟩
  have hrow (dec : Decision) : ∃ row, (j.record dec r.frame).rows = j.rows ++ [row]
      ∧ row.Tells dec r.frame :=
    ⟨_, j.rows_record dec r.frame, JournalRow.tells_ofDecision dec r.frame⟩
  change h.AccountsPull j r.frame ((s.next h.pipeline r).1, (s.next h.pipeline r).2.2) at hnext
  rcases hx : (s.next h.pipeline r).1 with e | dec | _ | _ <;> rw [hx] at hnext
  · obtain hsame | ⟨ho, dec, hd⟩ := hnext
    · exact ⟨j, hstanding hsame, .inl rfl⟩
    · obtain ⟨row, hrows, htells⟩ := hrow dec
      exact ⟨_, hstanding hd, .inr ⟨ho, row, dec, hrows, htells⟩⟩
  · exact ⟨_, hstanding hnext, hrow dec⟩
  · exact ⟨j, hstanding hnext, rfl⟩
  · exact ⟨j, hstanding hnext, rfl⟩

/-- Each move leaves a session standing, with the rows that its answer calls for. -/
theorem Standing.step
    (hturn : h.KeepsTurn) (hs : h.Standing j s) {m : SessionMove ι σ} (hm : h.Admits m) :
  ∃ j', h.Standing j' (s.step h.pipeline m) ∧ h.GoesOn j j' (s.answer? h.pipeline m)
  := by
  cases m with
  | act f =>
    refine ⟨j, ⟨hm j s.desk hs.logs, hs.run⟩, rfl⟩
  | enter ticks frame =>
    cases hr : s.run with
    | some r =>
      refine ⟨j, ?_, rfl⟩
      rwa [Session.step, hr]
    | none =>
      refine ⟨j, ?_, rfl⟩
      rw [Session.step, hr]
      refine ⟨hs.logs, ?_⟩
      rintro r ⟨rfl⟩
      exact ⟨hm, rfl, rfl, rfl⟩
  | leave =>
    cases hr : s.run with
    | none =>
      refine ⟨j, ?_, rfl⟩
      rwa [Session.step, hr]
    | some r =>
      refine ⟨j, ?_, rfl⟩
      rw [Session.step, hr]
      refine ⟨logs_exit (hs.run r hr).1 hs.logs r.stream s.context, ?_⟩
      rintro r ⟨⟩
  | pull =>
    cases hr : s.run with
    | none =>
      refine ⟨j, ?_, ?_⟩
      · rwa [Session.step, hr]
      · rw [Session.answer?, hr]
        rfl
    | some r =>
      rw [Session.answer?, hr]
      exact hs.pull hturn hr

/-! ### Whole sessions -/

/-- Subscribers that raise ordinary faults at most leave the rows of the decisions that are given,
and no others. -/
theorem GoesOn.tells
    {j j' : Journal} {f : Frame} {x : Except Fault (Pull Decision)}
    (hj : h.GoesOn j j' (some (f, x))) (ho : h.Ordinary) :
  ∃ rows, j'.rows = j.rows ++ rows
    ∧ List.Forall₂ (fun row y => row.Tells y.1 y.2) rows (Session.given f x)
  := by
  have hnone (heq : j'.rows = j.rows) : j'.rows = j.rows ++ [] := by rw [heq, List.append_nil]
  rcases x with e | dec | _ | _
  · obtain heq | ⟨hne, -⟩ := hj
    · exact ⟨[], hnone heq, .nil⟩
    · exact absurd ho hne
  · obtain ⟨row, hrow, htells⟩ := hj
    exact ⟨[row], hrow, .cons htells .nil⟩
  · exact ⟨[], hnone hj, .nil⟩
  · exact ⟨[], hnone hj, .nil⟩

/-- A move adds the rows of the decisions that it delivers. -/
theorem GoesOn.delivers
    {j j' : Journal} {m : SessionMove ι σ} (hj : h.GoesOn j j' (s.answer? h.pipeline m))
    (ho : h.Ordinary) :
  ∃ rows new, j'.rows = j.rows ++ rows ∧ (s.step h.pipeline m).delivered = s.delivered ++ new
    ∧ List.Forall₂ (fun row y => row.Tells y.1 y.2) rows new
  := by
  have hnone (heq : j'.rows = j.rows) (hsame : (s.step h.pipeline m).delivered = s.delivered) :
      ∃ rows new, j'.rows = j.rows ++ rows ∧ (s.step h.pipeline m).delivered = s.delivered ++ new
        ∧ List.Forall₂ (fun row y => row.Tells y.1 y.2) rows new := by
    use [], []
    rw [heq, hsame, List.append_nil, List.append_nil]
    exact ⟨rfl, rfl, .nil⟩
  cases m with
  | act f => exact hnone hj rfl
  | enter ticks frame =>
    apply hnone hj
    cases hr : s.run <;> rw [Session.step, hr]
  | leave =>
    apply hnone hj
    cases hr : s.run <;> rw [Session.step, hr]
  | pull =>
    cases hr : s.run with
    | none =>
      rw [Session.answer?, hr] at hj
      apply hnone hj
      rw [Session.step, hr]
    | some r =>
      rw [Session.answer?, hr] at hj
      obtain ⟨rows, hrows, htells⟩ := hj.tells ho
      use rows, Session.given r.frame (s.next h.pipeline r).1, hrows
      rw [Session.step, hr]
      exact ⟨rfl, htells⟩

/-- After any moves a session stands, and the rows tell of what was delivered. -/
theorem Standing.after
    (hturn : h.KeepsTurn) (hs : h.Standing j s) {moves : List (SessionMove ι σ)}
    (hmoves : ∀ m ∈ moves, h.Admits m) :
  ∃ j', h.Standing j' (s.after h.pipeline moves)
    ∧ (h.Ordinary → ∃ rows new, j'.rows = j.rows ++ rows
      ∧ (s.after h.pipeline moves).delivered = s.delivered ++ new
      ∧ List.Forall₂ (fun row y => row.Tells y.1 y.2) rows new)
  := by
  induction moves generalizing j s with
  | nil =>
    refine ⟨j, hs, fun _ => ⟨[], [], ?_, ?_, .nil⟩⟩
    · rw [List.append_nil]
    · rw [List.append_nil]
      rfl
  | cons m moves ih =>
    obtain ⟨hm, hrest⟩ := List.forall_mem_cons.mp hmoves
    obtain ⟨j₁, hstep, hgoes⟩ := hs.step hturn hm
    obtain ⟨j₂, hafter, htells⟩ := ih hstep hrest
    use j₂, hafter
    intro ho
    obtain ⟨rows₁, new₁, hrows₁, hnew₁, htells₁⟩ := hgoes.delivers ho
    obtain ⟨rows₂, new₂, hrows₂, hnew₂, htells₂⟩ := htells ho
    refine ⟨rows₁ ++ rows₂, new₁ ++ new₂, ?_, ?_, List.rel_append htells₁ htells₂⟩
    · rw [hrows₂, hrows₁, List.append_assoc]
    · rw [← List.append_assoc, ← hnew₁]
      exact hnew₂

/-- At every moment of a session whose subscribers leave the journal its turn, and raise ordinary
faults at most, the rows correspond in order to the decisions that were delivered, each tagged with
the frame of its run.  Whatever they raise, a pull that gives a decision adds its row, and nothing
else adds one, but a pull that fails because of a fault that is not ordinary. -/
theorem journal_agrees_with_session
    (h : JournaledPipeline ι σ) (hturn : h.KeepsTurn) (c : Context) {d : Desk ι σ}
    (hd : h.Logs j d) (moves : List (SessionMove ι σ)) (hmoves : ∀ m ∈ moves, h.Admits m) :
  let s := (Session.start c d).after h.pipeline moves
  (h.Ordinary → ∃ rows, (h.journal s.desk.world).rows = j.rows ++ rows
      ∧ List.Forall₂ (fun row y => row.Tells y.1 y.2) rows s.delivered)
    ∧ ∀ m, h.Admits m → h.GoesOn (h.journal s.desk.world)
      (h.journal (s.step h.pipeline m).desk.world) (s.answer? h.pipeline m)
  := by
  have hstart : h.Standing j (Session.start c d) := by
    use hd
    rintro r ⟨⟩
  obtain ⟨j', hstanding, htells⟩ := hstart.after hturn hmoves
  have hjournal {j : Journal} {s : Session ι σ} (hs : h.Standing j s) :
      h.journal s.desk.world = j := hs.logs.holds.world
  constructor
  · intro ho
    obtain ⟨rows, new, hrows, hnew, hall⟩ := htells ho
    rw [hjournal hstanding]
    rw [hnew]
    exact ⟨rows, hrows, hall⟩
  · intro m hm
    obtain ⟨j'', hstep, hgoes⟩ := hstanding.step hturn hm
    rw [hjournal hstanding, hjournal hstep]
    exact hgoes

/-! ### Two subscribers -/

/-- Buys at every tick.  Its journal is the world; beside it there is one other subscriber. -/
def besideOther (other : Act (Desk Bool Journal) Unit)
    (hother : ∀ j, other.Keeps (Desk.Logs id true (fun _ => True) j)) : JournaledPipeline Bool Journal where
  pipeline :=
    { clock := pure (.int 0)
      indicator := fun _ => pure .null
      builder := fun _ _ => pure (some Registry.buyAtMarket)
      tell := fun s dec => if s then Desk.record id (fun j _ => j) dec else other
      newcomers := 0 }
  recorder := true
  orders _ := True
  journal := id
  put j _ := j
  journal_put _ _ := rfl
  records _ := rfl
  calls :=
    { clock := fun _ => Act.keeps_pure _
      indicator := fun _ _ => Act.keeps_pure _
      builder := fun _ _ _ => Act.keeps_pure _
      tell := fun _ _ _ => Act.keeps_pure _ }
  others s hs _ j := by
    cases s with
    | true => exact absurd rfl hs
    | false => exact hother j

/-- A desk with no risks and an empty journal, which is told after the other subscriber. -/
def twoDesk : Desk Bool Journal :=
  { (Desk.create .empty .m15 100 .empty : Desk Bool Journal) with subscribers := [false, true] }

theorem logs_twoDesk :
  twoDesk.Logs id true (fun _ => True) .empty
  where
  holds := by
    refine ⟨?_, rfl⟩
    rintro j k ⟨⟩
  subscribed := by decide
  nodup := by decide
  order := trivial

/-- Ticks of BTC that go on until there are two rows. -/
def untilTwoRows : Source Journal Tick where
  start := some (pure ())
  pull := do
    if (← get).rows.length < 2 then
      return .item ⟨"BTC", .ofInt 100, ⟨1970, 1, 1, 0, 0, 0, 0, none⟩, none, none, none⟩
    else throw (.raised "ValueError" none)
  close := none

theorem untilTwoRows_keeps :
  untilTwoRows.Keeps fun (j : Journal) w => id w = j
  where
  start _ := by
    rintro a ⟨⟩
    apply Act.keeps_pure
  pull _ := by
    apply Act.keeps_get_bind
    intro w _
    split
    · apply Act.keeps_pure
    · apply Act.keeps_throw
  close _ := nofun

/-- The frame of a backtest of a strategy. -/
def backtestOf (strategy : String) : Frame :=
  ⟨.text strategy, .text "binance", .text "2024-q1", .bool true⟩

/-- A subscriber that ends its own subscription. -/
def leaving : Act (Desk Bool Journal) Unit :=
  modify fun d => d.unsubscribe false

theorem keeps_leaving
    (j : Journal) :
  leaving.Keeps (Desk.Logs id true (fun _ => True) j)
  := by
  intro stack d hd
  refine ⟨⟨hd.holds.registry, hd.holds.world⟩, ?_, hd.nodup.erase false, trivial⟩
  exact (List.mem_erase_of_ne (by decide)).mpr hd.subscribed

/-- Two runs, one after the other: the first is broken off after a decision, and a tick of the
second fails after another one. -/
def twoRuns (h : JournaledPipeline Bool Journal) : List (SessionMove Bool Journal) :=
  [.enter untilTwoRows (backtestOf "ema"), .pull, .act h.pipeline.work, .pull, .leave,
    .enter untilTwoRows (backtestOf "rsi"), .pull, .act h.pipeline.work, .pull, .pull, .leave]

theorem admits_twoRuns
    (h : JournaledPipeline Bool Journal) (hjournal : h.journal = id) :
  ∀ m ∈ twoRuns h, h.Admits m
  := by
  have hticks : untilTwoRows.Keeps fun j w => h.journal w = j := by
    rw [hjournal]
    exact untilTwoRows_keeps
  have hwork : ∀ j d, h.Logs j d → h.Logs j (h.pipeline.work d) := fun j d hd => hd.work
  simp only [twoRuns, List.forall_mem_cons, List.not_mem_nil, false_implies, implies_true,
    and_true]
  exact ⟨hticks, trivial, hwork, trivial, trivial, hticks, trivial, hwork, trivial, trivial,
    trivial⟩

/-- A subscriber that raises a fault of the ordinary kind. -/
def failing : Act (Desk Bool Journal) Unit :=
  throw (.raised "RuntimeError" none)

/-- The journal beside a subscriber that fails. -/
def besideFailing : JournaledPipeline Bool Journal :=
  besideOther failing fun _ => Act.keeps_throw _

theorem keepsTurn_besideFailing :
  besideFailing.KeepsTurn
  := by
  intro s hs dec stack j d k _ _
  cases s with
  | true => exact absurd rfl hs
  | false => exact ⟨fun hlt => ⟨hlt, Nat.le_refl _⟩, Nat.le_of_lt⟩

theorem ordinary_besideFailing :
  besideFailing.Ordinary
  := by
  intro s dec stack d e he
  cases s with
  | true => cases he
  | false =>
    cases he
    rfl

/-- A desk of a scenario, whose journal stands ahead of a subscriber that leaves when it is told. -/
def reportedDesk : Desk String Scenario.World :=
  { (Desk.create .empty .m15 100 {} : Desk String Scenario.World) with
    subscribers := ["report", "selfoff:once"] }

theorem logs_reportedDesk
    (i : Scenario.IndicatorScript) (b : Scenario.BuilderScript) :
  (Scenario.journaled i b).Logs .empty reportedDesk
  where
  holds := by
    refine ⟨?_, rfl⟩
    rintro j k ⟨⟩
  subscribed := by
    change "report" ∈ ["report", "selfoff:once"]
    decide
  nodup := by decide
  order := by
    change List.Pairwise _ ["report", "selfoff:once"]
    simp

/-- Ticks of BTC without an end. -/
def steadyTicks : Source Scenario.World Tick where
  start := some (pure ())
  pull := pure (.item ⟨"BTC", .ofInt 100, ⟨1970, 1, 1, 0, 0, 0, 0, none⟩, none, none, none⟩)
  close := none

theorem steadyTicks_keeps :
  steadyTicks.Keeps fun (j : Journal) w => w.journal = j
  where
  start _ := by
    rintro a ⟨⟩
    apply Act.keeps_pure
  pull _ := Act.keeps_pure _
  close _ := nofun

/-- A run that is broken off after the second pull. -/
def brokenOff (h : JournaledPipeline String Scenario.World) :
    List (SessionMove String Scenario.World) :=
  [.enter steadyTicks (backtestOf "ema"), .pull, .act h.pipeline.work, .pull, .leave]

/-- Beside a subscriber that fails the journal has a row for the decision of either run, and so it
has for the decisions of a run in a scenario, whatever its scripts. -/
theorem journal_agrees_with_twoRuns :
  (∃ s, s = (Session.start ⟨0, []⟩ twoDesk).after besideFailing.pipeline (twoRuns besideFailing)
    ∧ s.delivered.map (fun y => y.2.strategy.plain) = ["ema", "rsi"]
    ∧ ∃ rows, (besideFailing.journal s.desk.world).rows = Journal.empty.rows ++ rows
      ∧ List.Forall₂ (fun row y => row.Tells y.1 y.2) rows s.delivered)
  ∧ ∀ (i : Scenario.IndicatorScript) (b : Scenario.BuilderScript),
    let h := Scenario.journaled i b
    let s := (Session.start ⟨0, []⟩ reportedDesk).after h.pipeline (brokenOff h)
    ∃ rows, (h.journal s.desk.world).rows = Journal.empty.rows ++ rows
      ∧ List.Forall₂ (fun row y => row.Tells y.1 y.2) rows s.delivered
  := by
  constructor
  · refine ⟨_, rfl, by decide +kernel, ?_⟩
    exact (journal_agrees_with_session besideFailing keepsTurn_besideFailing ⟨0, []⟩ logs_twoDesk
      (twoRuns besideFailing) (admits_twoRuns besideFailing rfl)).1 ordinary_besideFailing
  · intro i b h s
    have hwork : ∀ j d, h.Logs j d → h.Logs j (h.pipeline.work d) := fun j d hd => hd.work
    have hmoves : ∀ m ∈ brokenOff h, h.Admits m := by
      simp only [brokenOff, List.forall_mem_cons, List.not_mem_nil, false_implies, implies_true,
        and_true]
      exact ⟨steadyTicks_keeps, trivial, hwork, trivial, trivial⟩
    exact (journal_agrees_with_session h (Scenario.keepsTurn_journaled i b) ⟨0, []⟩
      (logs_reportedDesk i b) (brokenOff h) hmoves).1 (Scenario.ordinary_journaled i b)

/-- A subscriber that leaves when it is told takes the turn of the journal behind it: the decision
is delivered, and has no row. -/
theorem row_is_missing_beside_leaving :
  let h := besideOther leaving keeps_leaving
  let s := (Session.start ⟨0, []⟩ twoDesk).after h.pipeline
    [.enter untilTwoRows (backtestOf "ema"), .pull, .act h.pipeline.work, .pull]
  s.delivered.length = 1 ∧ s.desk.world.rows.length = 0
  := by
  decide +kernel

end JournaledPipeline

end TradeGate
