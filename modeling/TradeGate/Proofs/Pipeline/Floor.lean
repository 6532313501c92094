import TradeGate.Proofs.Pipeline.Desk
import TradeGate.Proofs.Pipeline.Stage
import Mathlib.Logic.Function.Basic
import Mathlib.Tactic.Common

/-!
# Many tasks at one desk

Tasks admit ticks at one desk, each one tick at a time: a tick that it is called with, or
one that a run pulls from its source.  A floor is the desk with the ticks under way, and
an event takes one of them to its next stage, runs a computation that is due, or changes
something else.  Events come in any order.  In particular a computation may call the indicator
function long after it was started, and end long after that, and ticks may come and go
meanwhile.
-/

namespace TradeGate

/-- A tick under way, with the stack that it is admitted under. -/
structure Visit where
  stack : Stack
  tick : Tick
  stage : Stage
deriving Repr

/-- The key under which the indicators of a tick are kept. -/
def Visit.key (v : Visit) : String :=
  v.stack.keyOf v.tick.symbol

/-- A desk and the ticks at it: for each task the latest one. -/
structure Floor (γ ι σ : Type) where
  desk : Desk ι σ
  visits : γ → Option Visit
  /-- What the indicator function gave to computations that have not ended yet. -/
  evaluated : Nat → Option (Outcome Value)

/-- What can happen on a floor. -/
inductive FloorEvent (γ ι σ : Type) where
  /-- A task is called with a tick. -/
  | call (g : γ) (stack : Stack) (tick : Tick)
  /-- A run pulls its source for its next tick. -/
  | pull (g : γ) (stack : Stack) (ticks : Source σ Tick)
  /-- The tick of a task goes to its next stage. -/
  | advance (g : γ)
  /-- A task is cancelled. -/
  | cancel (g : γ)
  /-- A computation that is due calls the indicator function, and does not end yet. -/
  | evaluate (job : Nat)
  /-- A computation that is due ends.  If it has not called the indicator function, it does so
  now. -/
  | compute (job : Nat)
  | clear (key : String)
  | flush
  /-- Risks, positions, subscribers and the world change. -/
  | outside (registry : Registry σ) (subscribers : List ι) (world : σ)

/-- The desk without a computation that is due. -/
def Desk.withdraw {ι σ : Type} (d : Desk ι σ) (job : Nat) : Desk ι σ :=
  { d with queue := d.queue.filter fun due => due.job != job }

/-- The desk after a computation has ended. -/
def Desk.settle {ι σ : Type} (d : Desk ι σ) (job : Nat) (o : Outcome Value) : Desk ι σ :=
  { d with cache := d.cache.settle job o, outcomes := (job, o) :: d.outcomes }

namespace Pipeline

variable {ι σ : Type} (p : Pipeline ι σ)

/-- What the indicator function gives to a computation, as an outcome, and the world after
it. -/
def evaluation (due : Due) (w : σ) : Outcome Value × σ :=
  let (r, w) := (p.indicator due.symbol).outcome due.stack w
  (.ofResult r, w)

theorem fst_evaluation
    (due : Due) (w : σ) :
  (p.evaluation due w).1 = .ofResult ((p.indicator due.symbol).outcome due.stack w).1
  := rfl

/-- Only a tick that asks for its indicators concerns the computations. -/
theorem advance_spares
    (htells : ∀ s d, (p.tell s d).Spares) (tick : Tick) {s : Stage} (hs : s ≠ .handed) :
  (p.advance tick s).Spares
  := by
  cases s with
  | handed => exact absurd rfl hs
  | waiting key window job =>
    apply Act.spares_get.bind
    intro d
    split
    next => apply Act.spares_pure
    next => apply Act.spares_pure
    next o hne ho =>
      cases o with
      | value v => exact absurd rfl (hne v)
      | failure e => apply Act.spares_throw
      | cancelled => apply Act.spares_throw
  | indicated v =>
    apply (Desk.lift_spares _).bind
    intro x
    cases x <;> apply Act.spares_pure
  | proposed s =>
    apply Act.spares_get.bind
    intro d
    apply (Desk.lift_spares _).bind
    intro x
    apply Act.spares_get.bind
    intro d
    apply Act.spares_pure
  | decided d fuel k =>
    cases fuel with
    | zero => apply Act.spares_pure
    | succ fuel =>
      apply Act.spares_get.bind
      intro desk
      split
      · apply Act.spares_pure
      · apply (htells _ _).absorb.bind
        intro x
        apply Act.spares_pure
  | ended r => apply Act.spares_pure

end Pipeline

variable {γ ι σ : Type} [DecidableEq γ]

namespace Floor

/-- Whether the tick of a task is not over. -/
def busy (f : Floor γ ι σ) (g : γ) : Bool :=
  (f.visits g).any fun v => !v.stage.isEnded

/-- The floor with a tick of a task. -/
def put (f : Floor γ ι σ) (g : γ) (v : Visit) : Floor γ ι σ :=
  { f with visits := Function.update f.visits g (some v) }

/-- What a computation comes to that ends now, and the world after it. -/
def ending (p : Pipeline ι σ) (f : Floor γ ι σ) (due : Due) : Outcome Value × σ :=
  match f.evaluated due.job with
  | some o => (o, f.desk.world)
  | none => p.evaluation due f.desk.world

/-- The floor after an event.  What cannot happen changes nothing. -/
def step (p : Pipeline ι σ) (f : Floor γ ι σ) : FloorEvent γ ι σ → Floor γ ι σ
  | .call g stack tick => if f.busy g then f else f.put g ⟨stack, tick, .handed⟩
  | .pull g stack ticks =>
    if f.busy g then f
    else
      match (Desk.lift ticks.pull).outcome stack f.desk with
      | (.ok (.item tick), d) => { f with desk := d }.put g ⟨stack, tick, .handed⟩
      | (_, d) => { f with desk := d }
  | .advance g =>
    match f.visits g with
    | some v =>
      let (r, d) := (p.advance v.tick v.stage).outcome v.stack f.desk
      { f with desk := d }.put g { v with stage := .ofResult r }
    | none => f
  | .cancel g =>
    match f.visits g with
    | some v => if v.stage.isEnded then f else f.put g { v with stage := .ended (.error .cancelled) }
    | none => f
  | .evaluate job =>
    match f.desk.queue.find? fun due => due.job == job, f.evaluated job with
    | some due, none =>
      let (o, w) := p.evaluation due f.desk.world
      { f with
        desk := { f.desk with world := w }
        evaluated := Function.update f.evaluated job (some o) }
    | _, _ => f
  | .compute job =>
    match f.desk.queue.find? fun due => due.job == job with
    | some due =>
      let (o, w) := f.ending p due
      { f with desk := { f.desk.withdraw job with world := w }.settle job o }
    | none => f
  | .clear key => { f with desk := { f.desk with cache := f.desk.cache.clear key } }
  | .flush => { f with desk := { f.desk with cache := f.desk.cache.flush } }
  | .outside registry subscribers world =>
    { f with desk := { f.desk with
        registry := registry, subscribers := subscribers, world := world } }

@[simp]
theorem visits_put_self
    (f : Floor γ ι σ) (g : γ) (v : Visit) :
  (f.put g v).visits g = some v
  := Function.update_self _ _ _

@[simp]
theorem visits_put_of_ne
    (f : Floor γ ι σ) {g g' : γ} (v : Visit) (h : g' ≠ g) :
  (f.put g v).visits g' = f.visits g'
  := Function.update_of_ne h _ _

variable {p : Pipeline ι σ} {f : Floor γ ι σ} {e : FloorEvent γ ι σ}

/-- A tick that is put for a task is the tick of this task, and of no other. -/
theorem visits_put
    {g g' : γ} {v v' : Visit} (hv : (f.put g' v').visits g = some v) :
  (g = g' ∧ v = v') ∨ (g ≠ g' ∧ f.visits g = some v)
  := by
  by_cases hg : g = g'
  · subst hg
    rw [visits_put_self] at hv
    left
    use rfl
    exact (Option.some.inj hv).symm
  · rw [visits_put_of_ne _ _ hg] at hv
    right
    use hg

/-- A tick is where it was, or was just handed in, or went to its next stage, or was
cancelled. -/
theorem visits_step
    {g : γ} {v : Visit} (hv : (f.step p e).visits g = some v) :
  (e ≠ .advance g ∧ f.visits g = some v)
    ∨ v.stage = .handed
    ∨ (∃ s, e = .advance g ∧ f.visits g = some { v with stage := s }
      ∧ v.stage = .ofResult ((p.advance v.tick s).outcome v.stack f.desk).1
      ∧ (f.step p e).desk = ((p.advance v.tick s).outcome v.stack f.desk).2)
    ∨ (∃ s, e = .cancel g ∧ f.visits g = some { v with stage := s }
      ∧ v.stage = .ended (.error .cancelled))
  := by
  cases e with
  | call g' stack tick =>
    simp only [step] at hv
    split at hv
    · left
      use nofun
    · obtain ⟨rfl, rfl⟩ | ⟨-, hv⟩ := visits_put hv
      · right; left
        rfl
      · left
        use nofun
  | pull g' stack ticks =>
    simp only [step] at hv
    split at hv
    · left
      use nofun
    · split at hv
      · obtain ⟨rfl, rfl⟩ | ⟨-, hv⟩ := visits_put hv
        · right; left
          rfl
        · left
          use nofun, hv
      · left
        use nofun, hv
  | advance g' =>
    simp only [step] at hv ⊢
    cases hg' : f.visits g' with
    | none =>
      rw [hg'] at hv
      left
      constructor
      · rintro ⟨⟩
        rw [hg'] at hv
        cases hv
      · exact hv
    | some v' =>
      rw [hg'] at hv
      obtain ⟨rfl, rfl⟩ | ⟨hne, hv⟩ := visits_put hv
      · right; right; left
        use v'.stage, rfl, hg', rfl
        rfl
      · left
        use fun h => hne (FloorEvent.advance.inj h).symm, hv
  | cancel g' =>
    simp only [step] at hv
    cases hg' : f.visits g' with
    | none =>
      rw [hg'] at hv
      left
      use nofun, hv
    | some v' =>
      rw [hg'] at hv
      dsimp only at hv
      split at hv
      · left
        use nofun, hv
      · obtain ⟨rfl, rfl⟩ | ⟨-, hv⟩ := visits_put hv
        · right; right; right
          use v'.stage, rfl, hg'
        · left
          use nofun, hv
  | evaluate job =>
    left
    use nofun
    simp only [step] at hv
    split at hv <;> exact hv
  | compute job =>
    left
    use nofun
    simp only [step] at hv
    split at hv <;> exact hv
  | clear key =>
    left
    use nofun, hv
  | flush =>
    left
    use nofun, hv
  | outside registry subscribers world =>
    left
    use nofun, hv

theorem desk_advance
    {g : γ} {v : Visit} (hg : f.visits g = some v) :
  (f.step p (.advance g)).desk = ((p.advance v.tick v.stage).outcome v.stack f.desk).2
  := by
  simp only [step, hg]
  rfl

theorem visits_advance
    {g : γ} {v : Visit} (hg : f.visits g = some v) :
  (f.step p (.advance g)).visits g = some { v with
    stage := .ofResult ((p.advance v.tick v.stage).outcome v.stack f.desk).1 }
  := by
  simp only [step, hg, visits_put_self]

/-- A computation that calls the indicator function as it ends runs without a break. -/
theorem desk_compute
    {due : Due} (hdue : f.desk.queue.find? (fun d => d.job == due.job) = some due)
    (hnone : f.evaluated due.job = none) :
  (f.step p (.compute due.job)).desk = p.compute due (f.desk.withdraw due.job)
  := by
  simp only [step, hdue, ending, hnone]
  rfl

/-- So it does if nothing comes between the call and the end. -/
theorem desk_compute_evaluate
    {due : Due} (hdue : f.desk.queue.find? (fun d => d.job == due.job) = some due)
    (hnone : f.evaluated due.job = none) :
  ((f.step p (.evaluate due.job)).step p (.compute due.job)).desk
    = p.compute due (f.desk.withdraw due.job)
  := by
  simp only [step, hdue, ending, hnone, Function.update_self]
  rfl

/-- An event spares the computations, unless a tick asks for its indicators and is served,
or a computation that is due ends. -/
theorem desk_step
    (htells : ∀ s d, (p.tell s d).Spares) (f : Floor γ ι σ) (e : FloorEvent γ ι σ) :
  f.desk.Spares (f.step p e).desk
    ∨ (∃ g v now d, e = .advance g ∧ f.visits g = some v ∧ v.stage = .handed
      ∧ p.reading.outcome v.stack f.desk = (.ok now, d)
      ∧ (f.step p e).desk = (d.serve v.stack v.tick.symbol now).2)
    ∨ (∃ due, e = .compute due.job
      ∧ f.desk.queue.find? (fun d => d.job == due.job) = some due
      ∧ (f.step p e).desk
        = { f.desk.withdraw due.job with world := (f.ending p due).2 }.settle due.job
          (f.ending p due).1)
  := by
  cases e with
  | call g stack tick =>
    left
    simp only [step]
    split <;> apply Desk.Spares.refl
  | pull g stack ticks =>
    left
    simp only [step]
    split
    · apply Desk.Spares.refl
    · have h := Desk.lift_spares (ι := ι) ticks.pull stack f.desk
      rcases hrun : (Desk.lift ticks.pull).outcome stack f.desk with ⟨e | tick | _ | _, d⟩ <;>
        rwa [hrun] at h
  | advance g =>
    cases hg : f.visits g with
    | none =>
      left
      simp only [step, hg]
      apply Desk.Spares.refl
    | some v =>
      rw [desk_advance hg]
      by_cases hv : v.stage = .handed
      · have hread := p.reading_spares v.stack f.desk
        rw [hv, p.outcome_advance_handed]
        rcases hrun : p.reading.outcome v.stack f.desk with ⟨e | now, d⟩
        · left
          rwa [hrun] at hread
        · right; left
          use g, v, now, d
      · left
        apply p.advance_spares htells v.tick hv
  | cancel g =>
    left
    simp only [step]
    split
    · split <;> apply Desk.Spares.refl
    · apply Desk.Spares.refl
  | evaluate job =>
    left
    simp only [step]
    split
    · apply Desk.spares_with
    · apply Desk.Spares.refl
  | compute job =>
    simp only [step]
    split
    next due hdue =>
      right; right
      obtain rfl : due.job = job := by simpa using List.find?_some hdue
      use due
    next =>
      left
      apply Desk.Spares.refl
  | clear key =>
    left
    apply Desk.spares_clear
  | flush =>
    left
    apply Desk.spares_flush
  | outside registry subscribers world =>
    left
    apply Desk.spares_with

/-- What was evaluated before an event, or is evaluated in it. -/
theorem evaluated_step
    {job : Nat} {o : Outcome Value} (ho : (f.step p e).evaluated job = some o) :
  f.evaluated job = some o
    ∨ ∃ due, e = .evaluate due.job ∧ due.job = job ∧ due ∈ f.desk.queue
      ∧ f.evaluated due.job = none ∧ (p.evaluation due f.desk.world).1 = o
  := by
  cases e with
  | call g stack tick =>
    left
    simp only [step] at ho
    split at ho <;> exact ho
  | pull g stack ticks =>
    left
    simp only [step] at ho
    split at ho
    · exact ho
    · split at ho <;> exact ho
  | advance g =>
    left
    simp only [step] at ho
    split at ho <;> exact ho
  | cancel g =>
    left
    simp only [step] at ho
    split at ho
    · split at ho <;> exact ho
    · exact ho
  | evaluate job' =>
    simp only [step] at ho
    split at ho
    next due hdue hnone =>
      dsimp only at ho
      by_cases hj : job = job'
      · right
        obtain rfl : due.job = job' := by simpa using List.find?_some hdue
        rw [hj, Function.update_self, Option.some.injEq] at ho
        use due, rfl, hj.symm, List.mem_of_find?_eq_some hdue
      · left
        rwa [Function.update_of_ne hj] at ho
    next =>
      left
      exact ho
  | compute job' =>
    left
    simp only [step] at ho
    split at ho <;> exact ho
  | clear key =>
    left
    exact ho
  | flush =>
    left
    exact ho
  | outside registry subscribers world =>
    left
    exact ho

/-- The timeframe of a desk stays. -/
theorem timeframe_step
    (htells : ∀ s d, (p.tell s d).Spares) (f : Floor γ ι σ) (e : FloorEvent γ ι σ) :
  (f.step p e).desk.cache.timeframe = f.desk.cache.timeframe
  := by
  obtain hspares | ⟨g, v, now, d, -, -, -, hread, hdesk⟩ | ⟨due, -, -, hdesk⟩ :=
    desk_step htells f e
  · apply hspares.timeframe
  · have hspares := p.reading_spares v.stack f.desk
    rw [hread] at hspares
    rw [hdesk, Desk.timeframe_serve]
    apply hspares.timeframe
  · rw [hdesk]
    apply Cache.timeframe_settle

end Floor

end TradeGate
