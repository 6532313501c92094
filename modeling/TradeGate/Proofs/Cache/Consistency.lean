import TradeGate.Proofs.Cache.Events
import Mathlib.Data.List.Pairwise

/-!
# Consistency of a cache with its computations

A state is consistent if its cache is well formed, the entries without a value are those
of running computations, and every waiting caller waits for a running computation of its
key and window.  Every event keeps a state consistent.
-/

namespace TradeGate

namespace Cache

variable {κ α : Type} [BEq κ]

/-! ### Operations on a well-formed cache -/

theorem wellFormed_create
    (timeframe : Timeframe) (bound : Int) :
  (create timeframe bound : Cache κ α).WellFormed
  := by
  constructor <;> simp [create]

/-- A cache stays well formed when entries leave. -/
theorem WellFormed.of_sublist
    {c d : Cache κ α} (hc : c.WellFormed) (hs : d.entries.Sublist c.entries)
    (ht : d.timeframe = c.timeframe) (hn : d.started = c.started) :
  d.WellFormed
  := by
  constructor
  · apply hc.keys.sublist hs
  · apply hc.jobs.sublist hs
  · intro e he
    rw [hn]
    apply hc.started e (hs.mem he)
  · intro e he
    rw [ht]
    apply hc.windows e (hs.mem he)

theorem WellFormed.withStats
    {c : Cache κ α} (hc : c.WellFormed) (s : CacheStats) :
  ({ c with stats := s } : Cache κ α).WellFormed
  := ⟨hc.keys, hc.jobs, hc.started, hc.windows⟩

theorem WellFormed.store
    {c : Cache κ α} (hc : c.WellFormed) (job : Nat) (v : α) :
  (c.store job v).WellFormed
  := by
  have hsame : ∀ e : Entry κ α,
      (if e.job = job then { e with value := some v } else e).key = e.key
        ∧ (if e.job = job then { e with value := some v } else e).job = e.job
        ∧ (if e.job = job then { e with value := some v } else e).window = e.window := by
    intro e
    split <;> simp
  constructor
  · apply List.pairwise_map.mpr
    apply hc.keys.imp
    intro a b h
    rw [(hsame a).1, (hsame b).1]
    apply h
  · apply List.pairwise_map.mpr
    apply hc.jobs.imp
    intro a b h
    rw [(hsame a).2.1, (hsame b).2.1]
    apply h
  · intro e he
    obtain ⟨d, hd, rfl⟩ := List.mem_map.mp he
    rw [(hsame d).2.1]
    apply hc.started d hd
  · intro e he
    obtain ⟨d, hd, rfl⟩ := List.mem_map.mp he
    rw [(hsame d).2.2]
    apply hc.windows d hd

theorem WellFormed.settle
    {c : Cache κ α} (hc : c.WellFormed) (job : Nat) (o : Outcome α) :
  (c.settle job o).WellFormed
  := by
  by_cases ho : ∀ v, o ≠ .value v
  · apply hc.of_sublist _ (timeframe_settle c job o) (started_settle c job o)
    rw [entries_settle_of_ne_value ho]
    apply List.filter_sublist
  · push Not at ho
    obtain ⟨v, rfl⟩ := ho
    by_cases hcur : c.isCurrent job = true
    · simp only [Cache.settle, hcur, if_true]
      have hs : ({ c.store job v with
          entries := evict c.bound (c.store job v).entries } : Cache κ α).entries.Sublist
            (c.store job v).entries := evict_sublist _ _
      apply (hc.store job v).of_sublist hs rfl rfl
    · simp only [Cache.settle, hcur]
      apply hc

theorem WellFormed.clear
    {c : Cache κ α} (hc : c.WellFormed) (key : κ) :
  (c.clear key).WellFormed
  := hc.of_sublist List.filter_sublist rfl rfl

theorem WellFormed.flush
    {c : Cache κ α} (hc : c.WellFormed) :
  c.flush.WellFormed
  := hc.of_sublist (List.nil_sublist _) rfl rfl

theorem WellFormed.start
    {c : Cache κ α} (hc : c.WellFormed) (key : κ) {window : Int}
    (hw : c.timeframe.millis ∣ window) :
  (c.start key window).2.WellFormed
  := by
  have hothers : ∀ e ∈ c.others key, e ∈ c.entries ∧ ¬ (e.key == key) :=
    fun e he => mem_others.mp he
  constructor
  · apply List.pairwise_append.mpr
    use hc.keys.sublist List.filter_sublist, List.pairwise_singleton _ _
    intro a ha b hb
    obtain rfl := List.mem_singleton.mp hb
    apply (hothers a ha).2
  · apply List.pairwise_append.mpr
    use hc.jobs.sublist List.filter_sublist, List.pairwise_singleton _ _
    intro a ha b hb
    obtain rfl := List.mem_singleton.mp hb
    apply Nat.lt_succ_of_le (hc.started a (hothers a ha).1)
  · intro e he
    obtain he | he := List.mem_append.mp he
    · apply Nat.le_succ_of_le (hc.started e (hothers e he).1)
    · obtain rfl := List.mem_singleton.mp he
      apply Nat.le_refl
  · intro e he
    obtain he | he := List.mem_append.mp he
    · apply hc.windows e (hothers e he).1
    · obtain rfl := List.mem_singleton.mp he
      apply hw

end Cache

namespace Traffic

variable {γ κ α : Type} [BEq κ]

/-! ### Consistent states -/

/-- The entries without a value are those of running computations, which are numbered in
the order of their start, and every waiting caller waits for one of its key and window. -/
structure Consistent (t : Traffic γ κ α) : Prop where
  cache : t.cache.WellFormed
  flights : t.flights.Pairwise fun f g => f.job < g.job
  started : ∀ f ∈ t.flights, f.job ≤ t.cache.started
  inFlight : ∀ e ∈ t.cache.entries, e.value = none → ⟨e.job, e.key, e.window⟩ ∈ t.flights
  stored : ∀ e ∈ t.cache.entries, e.value ≠ none → ∀ f ∈ t.flights, f.job ≠ e.job
  waiting : ∀ w ∈ t.waiters,
    ∃ f ∈ t.flights, f.job = w.job ∧ f.key == w.key ∧ f.window = w.window

theorem consistent_create
    (timeframe : Timeframe) (bound : Int) :
  (create timeframe bound : Traffic γ κ α).Consistent
  := by
  have hc := Cache.wellFormed_create (κ := κ) (α := α) timeframe bound
  constructor
  · apply hc
  all_goals simp [create, Cache.create]

/-- A running computation is determined by its number. -/
theorem Consistent.flight_eq
    {t : Traffic γ κ α} (ht : t.Consistent) {f g : Flight κ} (hf : f ∈ t.flights)
    (hg : g ∈ t.flights) (h : f.job = g.job) :
  f = g
  := by
  by_contra hfg
  have hsymm : Std.Symm fun a b : Flight κ => a.job ≠ b.job := ⟨fun _ _ => Ne.symm⟩
  have hne : t.flights.Pairwise fun a b => a.job ≠ b.job := ht.flights.imp Nat.ne_of_lt
  apply hne.forall hf hg hfg h

/-! ### Consistency is kept -/

variable [BEq γ]

theorem flights_pairwise_step
    {t : Traffic γ κ α} (ht : t.Consistent) (x : CacheEvent γ κ α) :
  (t.step x).1.flights.Pairwise fun f g => f.job < g.job
  := by
  cases x with
  | call caller key now =>
    obtain ⟨e, v, -, -, -, h⟩ | ⟨e, -, -, -, h⟩ | ⟨-, h⟩ := t.call_cases caller key now
    · simpa [step, h] using ht.flights
    · simpa [step, h] using ht.flights
    · simp only [step, h]
      apply List.pairwise_append.mpr
      use ht.flights, List.pairwise_singleton _ _
      intro f hf g hg
      obtain rfl := List.mem_singleton.mp hg
      apply Nat.lt_succ_of_le (ht.started f hf)
  | finish job o =>
    simp only [step, finish]
    split
    · apply ht.flights.sublist List.filter_sublist
    · apply ht.flights
  | _ => apply ht.flights

theorem wellFormed_step
    {t : Traffic γ κ α} (ht : t.cache.WellFormed) (x : CacheEvent γ κ α) :
  (t.step x).1.cache.WellFormed
  := by
  cases x with
  | call caller key now =>
    obtain ⟨e, v, -, -, -, h⟩ | ⟨e, -, -, -, h⟩ | ⟨-, h⟩ := t.call_cases caller key now
    · simp only [step, h]
      apply ht.withStats
    · simp only [step, h]
      apply ht.withStats
    · simp only [step, h]
      apply ht.start key (t.cache.timeframe.dvd_window now)
  | finish job o =>
    simp only [step, finish]
    split
    · apply ht.settle
    · apply ht
  | cancel caller => apply ht
  | clear key => apply ht.clear
  | flush => apply ht.flush

/-- The numbers of the running computations are among those that were given. -/
theorem flights_started_step
    {t : Traffic γ κ α} (ht : ∀ f ∈ t.flights, f.job ≤ t.cache.started)
    (x : CacheEvent γ κ α) :
  ∀ f ∈ (t.step x).1.flights, f.job ≤ (t.step x).1.cache.started
  := by
  intro f hf
  obtain ⟨hf, -⟩ | hs := mem_flights_step.mp hf
  · apply Nat.le_trans (ht f hf) (t.started_le_step x)
  · apply Nat.le_of_eq hs.started_step.symm

variable [EquivBEq κ]

/-- Every event keeps a state consistent. -/
theorem Consistent.step
    {t : Traffic γ κ α} (ht : t.Consistent) (x : CacheEvent γ κ α) :
  (t.step x).1.Consistent
  := by
  constructor
  · apply wellFormed_step ht.cache
  · apply flights_pairwise_step ht
  · apply flights_started_step ht.started
  · intro e he hv
    apply mem_flights_step.mpr
    obtain ⟨he, -, hends⟩ | ⟨-, hs⟩ | ⟨d, -, v, -, rfl⟩ := mem_entries_step he
    · left
      use ht.inFlight e he hv
    · right
      apply hs
    · cases hv
  · intro e he hv f hf
    obtain ⟨he, -, -⟩ | ⟨hv', -⟩ | ⟨d, hd, v, hends, rfl⟩ := mem_entries_step he
    · obtain ⟨hf, -⟩ | hs := mem_flights_step.mp hf
      · apply ht.stored e he hv f hf
      · rw [hs.job_eq]
        have := ht.cache.started e he
        omega
    · exact absurd hv' hv
    · rintro hj
      obtain ⟨-, hne⟩ | hs := mem_flights_step.mp hf
      · apply hne (.value v)
        rw [hj]
        apply hends
      · have := ht.cache.started d hd
        have := hs.job_eq
        simp only at hj
        omega
  · intro w hw
    obtain ⟨hw, hne⟩ | ⟨now, rfl, hwin, hs | ⟨e, he, hv, hk, hew, hj⟩⟩ := mem_waiters_step hw
    · obtain ⟨f, hf, hj, hk, hfw⟩ := ht.waiting w hw
      rw [← hj] at hne
      use f, mem_flights_step.mpr (.inl ⟨hf, hne⟩)
    · use ⟨w.job, w.key, w.window⟩, mem_flights_step.mpr (.inr hs)
      simp
    · use ⟨e.job, e.key, e.window⟩
      constructor
      · apply mem_flights_step.mpr
        left
        use ht.inFlight e he hv
        simp [Ends]
      · use hj, hk

end Traffic

end TradeGate
