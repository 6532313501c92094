import TradeGate.Proofs.Pipeline.Keeping
import Mathlib.Tactic.Common

/-!
# Computations that are due

Whatever the cache computes is due, and stays so until it has been run.  Work runs all that is
due, so that a tick that waits has an outcome after it: a tick that is admitted while no other
is under way never waits in vain.
-/

namespace TradeGate

variable {ι σ : Type}

namespace Desk

/-- Whatever the cache computes is due. -/
def AllDue (d : Desk ι σ) : Prop :=
  ∀ e ∈ d.cache.entries, e.value = none → ∃ due ∈ d.queue, due.job = e.job

theorem allDue_create
    (registry : Registry σ) (timeframe : Timeframe) (bound : Int) (world : σ) :
  (create registry timeframe bound world : Desk ι σ).AllDue
  := by
  rintro e ⟨⟩

theorem AllDue.of_spares
    {d d' : Desk ι σ} (h : d.AllDue) (hspares : d.Spares d') :
  d'.AllDue
  := by
  intro e he hvalue
  rw [hspares.queue]
  apply h e (hspares.entries e he) hvalue

/-- A computation that a request starts is due. -/
theorem AllDue.serve
    {d : Desk ι σ} (h : d.AllDue) (stack : Stack) (symbol : String) (now : Int) :
  (d.serve stack symbol now).2.AllDue
  := by
  obtain ⟨e, -, v, stats, -, -, -, -, hd⟩ | ⟨e, -, stats, -, -, -, -, hd⟩ | ⟨-, hd⟩ :=
    d.serve_cases stack symbol now
  · rw [hd]
    exact h
  · rw [hd]
    exact h
  · rw [hd]
    intro e he hvalue
    obtain he | he := List.mem_append.mp he
    · obtain ⟨due, hdue, hj⟩ := h e (Cache.mem_others.mp he).1 hvalue
      use due, List.mem_append_left _ hdue
    · obtain rfl := List.mem_singleton.mp he
      use ⟨d.cache.started + 1, symbol, stack⟩, List.mem_append_right _ List.mem_cons_self

/-- A request that has no value yet waits for a computation that is due. -/
theorem AllDue.due_of_serve
    {d : Desk ι σ} (h : d.AllDue) {stack : Stack} {symbol : String} {now : Int} {job : Nat}
    (hjob : (d.serve stack symbol now).1 = .join job ∨ (d.serve stack symbol now).1 = .start job) :
  ∃ due ∈ (d.serve stack symbol now).2.queue, due.job = job
  := by
  obtain ⟨e, -, v, stats, -, -, -, -, hd⟩ | ⟨e, he, stats, -, -, hvalue, -, hd⟩ | ⟨-, hd⟩ :=
    d.serve_cases stack symbol now
  · rw [hd] at hjob
    obtain ⟨⟨⟩⟩ | ⟨⟨⟩⟩ := hjob
  · rw [hd] at hjob ⊢
    obtain ⟨⟨⟩⟩ | ⟨⟨⟩⟩ := hjob
    apply h e he hvalue
  · rw [hd] at hjob ⊢
    obtain ⟨⟨⟩⟩ | ⟨⟨⟩⟩ := hjob
    use ⟨d.cache.started + 1, symbol, stack⟩, List.mem_append_right _ List.mem_cons_self

end Desk

/-! ### Actions -/

/-- An action after which whatever the cache computes is due, if it was so before. -/
def Act.KeepsDue {α : Type} (a : Act (Desk ι σ) α) : Prop :=
  ∀ (stack : Stack) (d : Desk ι σ), d.AllDue → (a.outcome stack d).2.AllDue

namespace Act

variable {α β : Type}

theorem Spares.keepsDue
    {a : Act (Desk ι σ) α} (ha : a.Spares) :
  a.KeepsDue
  := fun stack d hd => hd.of_spares (ha stack d)

theorem keepsDue_pure
    (x : α) :
  (pure x : Act (Desk ι σ) α).KeepsDue
  := keeps_pure x

theorem keepsDue_throw
    (e : Fault) :
  (throw e : Act (Desk ι σ) α).KeepsDue
  := keeps_throw e

theorem KeepsDue.bind
    {a : Act (Desk ι σ) α} {f : α → Act (Desk ι σ) β} (ha : a.KeepsDue)
    (hf : ∀ x, (f x).KeepsDue) :
  (a >>= f).KeepsDue
  := Keeps.bind ha hf

theorem KeepsDue.tryCatch
    {a : Act (Desk ι σ) α} {f : Fault → Act (Desk ι σ) α} (ha : a.KeepsDue)
    (hf : ∀ e, (f e).KeepsDue) :
  (tryCatch a f : Act (Desk ι σ) α).KeepsDue
  := Keeps.tryCatch ha hf

theorem KeepsDue.absorb
    {a : Act (Desk ι σ) Unit} (ha : a.KeepsDue) :
  a.absorb.KeepsDue
  := Keeps.absorb ha

end Act

namespace Pipeline

variable (p : Pipeline ι σ)

theorem ask_keepsDue
    (symbol : String) :
  (p.ask symbol).KeepsDue
  := by
  intro stack d hd
  rw [outcome_ask]
  have hspares := p.reading_spares stack d
  rcases hread : p.reading.outcome stack d with ⟨e | now, d'⟩
  · rw [hread] at hspares
    apply hd.of_spares hspares
  · rw [hread] at hspares
    apply (hd.of_spares hspares).serve

/-- A tick that has to wait does so for a computation that is due. -/
theorem due_of_ask
    {d d' : Desk ι σ} (hd : d.AllDue) {symbol : String} {stack : Stack} {key : String}
    {window : Int} {job : Nat}
    (hask : (p.ask symbol).outcome stack d = (.ok (.waiting key window job), d')) :
  ∃ due ∈ d'.queue, due.job = job
  := by
  rw [outcome_ask] at hask
  have hspares := p.reading_spares stack d
  rcases hread : p.reading.outcome stack d with ⟨e | now, d''⟩
  · simp [hread] at hask
  · rw [hread] at hask hspares
    obtain ⟨hserved, rfl⟩ := Prod.mk.inj hask
    apply (hd.of_spares hspares).due_of_serve
    rcases hs : (d''.serve stack symbol now).1 with v | job' | job'
    · rw [hs] at hserved
      cases hserved
    · rw [hs] at hserved
      cases hserved
      left
      rfl
    · rw [hs] at hserved
      cases hserved
      right
      rfl

/-- Computations that start under a stack are due under it. -/
theorem stack_of_ask
    (symbol : String) (stack : Stack) (d : Desk ι σ) :
  ∀ due ∈ ((p.ask symbol).outcome stack d).2.queue, due ∈ d.queue ∨ due.stack = stack
  := by
  intro due hdue
  rw [outcome_ask] at hdue
  have hspares := p.reading_spares stack d
  rcases hread : p.reading.outcome stack d with ⟨e | now, d'⟩
  · rw [hread] at hdue hspares
    left
    rwa [← hspares.queue]
  · rw [hread] at hdue hspares
    dsimp only at hdue
    obtain hqueue | hqueue := d'.queue_serve stack symbol now
    · left
      rwa [hqueue, hspares.queue] at hdue
    · rw [hqueue, hspares.queue] at hdue
      apply (List.mem_append.mp hdue).imp_right
      intro hdue
      rw [List.mem_singleton.mp hdue]

/-! ### Work -/

/-- A computation that has an outcome keeps having one. -/
theorem outcome?_compute
    (due : Due) (d : Desk ι σ) {job : Nat}
    (h : due.job = job ∨ ∃ o, d.outcome? job = some o) :
  ∃ o, (p.compute due d).outcome? job = some o
  := by
  by_cases hj : due.job = job
  · use .ofResult ((p.indicator due.symbol).outcome due.stack d.world).1
    simp [compute, Desk.outcome?, hj]
  · obtain ⟨o, ho⟩ := h.resolve_left hj
    use o
    simpa [compute, Desk.outcome?, hj] using ho

/-- Running a list of computations settles those that were due for an entry, and each of
them has an outcome afterwards. -/
theorem foldl_compute
    (dues : List Due) {d : Desk ι σ}
    (hd : ∀ e ∈ d.cache.entries, e.value = none → ∃ due ∈ dues, due.job = e.job) :
  let d' := dues.foldl (fun d due => p.compute due d) d
  d'.queue = d.queue ∧ (∀ e ∈ d'.cache.entries, e.value ≠ none)
    ∧ ∀ job, (∃ due ∈ dues, due.job = job) ∨ (∃ o, d.outcome? job = some o) →
      ∃ o, d'.outcome? job = some o
  := by
  induction dues generalizing d with
  | nil =>
    use rfl
    constructor
    · intro e he hvalue
      obtain ⟨due, ⟨⟩, -⟩ := hd e he hvalue
    · rintro job (⟨due, ⟨⟩, -⟩ | h)
      exact h
  | cons due dues ih =>
    have hcompute : ∀ e ∈ (p.compute due d).cache.entries, e.value = none →
        ∃ due' ∈ dues, due'.job = e.job := by
      intro e he hvalue
      obtain ⟨he, hne⟩ | ⟨e', -, x, -, -, rfl⟩ := Cache.mem_settle he
      · obtain ⟨due', hdue', hj⟩ := hd e he hvalue
        obtain rfl | hdue' := List.mem_cons.mp hdue'
        · exact absurd hj.symm hne
        · use due', hdue'
      · cases hvalue
    obtain ⟨hqueue, hentries, houtcomes⟩ := ih hcompute
    use hqueue, hentries
    intro job hjob
    apply houtcomes
    obtain ⟨due', hdue', hj⟩ | ho := hjob
    · obtain rfl | hdue' := List.mem_cons.mp hdue'
      · right
        apply p.outcome?_compute due' d (.inl hj)
      · left
        use due', hdue'
    · right
      apply p.outcome?_compute due d (.inr ho)

/-- After work nothing is due, and all that was has an outcome. -/
theorem work_spec
    {d : Desk ι σ} (hd : d.AllDue) :
  (p.work d).AllDue ∧ ∀ due ∈ d.queue, ∃ o, (p.work d).outcome? due.job = some o
  := by
  obtain ⟨-, hentries, houtcomes⟩ := p.foldl_compute d.queue (d := { d with queue := [] }) hd
  constructor
  · intro e he hvalue
    exact absurd hvalue (hentries e he)
  · intro due hdue
    apply houtcomes
    left
    use due, hdue

/-! ### Admissions -/

variable {p} (htells : ∀ s dec, (p.tell s dec).KeepsDue)

include htells

theorem notifyFrom_keepsDue
    (dec : Decision) (fuel k : Nat) :
  (p.notifyFrom dec fuel k).KeepsDue
  := by
  induction fuel generalizing k with
  | zero => apply Act.keepsDue_pure
  | succ fuel ih =>
    apply Act.spares_get.keepsDue.bind
    intro d
    split
    · apply Act.keepsDue_pure
    · apply (htells _ _).absorb.bind
      intro x
      apply ih

theorem conclude_keepsDue
    (tick : Tick) (x : Value) :
  (p.conclude tick x).KeepsDue
  := by
  apply (Desk.lift_spares _).keepsDue.bind
  intro s
  cases s with
  | none => apply Act.keepsDue_pure
  | some s =>
    apply Act.spares_get.keepsDue.bind
    intro d
    apply (Desk.lift_spares _).keepsDue.bind
    intro dec
    apply Act.KeepsDue.bind
    · apply Act.spares_get.keepsDue.bind
      intro d
      apply notifyFrom_keepsDue htells
    · intro x
      apply Act.keepsDue_pure

theorem receive_keepsDue
    (tick : Tick) (key : String) (window : Int) (o : Outcome Value) :
  (p.receive tick key window o).KeepsDue
  := by
  cases o with
  | value x => apply conclude_keepsDue htells
  | failure e => apply Act.keepsDue_throw
  | cancelled => apply Act.keepsDue_throw

theorem processTick_keepsDue
    (tick : Tick) :
  (p.processTick tick).KeepsDue
  := by
  apply (p.ask_keepsDue tick.symbol).bind
  rintro (x | ⟨key, window, job⟩)
  · apply conclude_keepsDue htells
  · apply Act.KeepsDue.bind
    · intro stack d hd
      apply (p.work_spec hd).1
    · intro x
      apply Act.spares_get.keepsDue.bind
      intro d
      split
      · apply receive_keepsDue htells
      · apply Act.keepsDue_pure

end Pipeline

end TradeGate
