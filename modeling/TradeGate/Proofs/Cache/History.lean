import TradeGate.Proofs.Cache.Consistency

/-!
# Histories of a cache

A history is a list of events on a new cache.  `h.after n` is the state after the first
`n` events, so the places of a history are its points in time, and what happens at a
place is told by the event there and the state before it: a caller calls, a computation
starts or ends, the entry of a key is dropped, callers end.  Computations are numbered in
the order of their start; each starts at one place and ends at one place at most.
-/

namespace TradeGate

/-- A run of a cache from its creation. -/
structure CacheHistory (γ κ α : Type) where
  timeframe : Timeframe
  bound : Int
  events : List (CacheEvent γ κ α)

namespace Traffic

variable {γ κ α : Type} [BEq γ] [BEq κ]

theorem run_append
    (t : Traffic γ κ α) (xs ys : List (CacheEvent γ κ α)) :
  (t.run (xs ++ ys)).1 = ((t.run xs).1.run ys).1
  := by
  induction xs generalizing t with
  | nil => rfl
  | cons x xs ih => apply ih

@[simp]
theorem timeframe_run
    (t : Traffic γ κ α) (xs : List (CacheEvent γ κ α)) :
  (t.run xs).1.cache.timeframe = t.cache.timeframe
  := by
  induction xs generalizing t with
  | nil => rfl
  | cons x xs ih =>
    rw [← (settings_step t x).1]
    apply ih

end Traffic

namespace CacheHistory

variable {γ κ α : Type} [BEq γ] [BEq κ] (h : CacheHistory γ κ α)

/-- The state after the first `n` events. -/
def after (n : Nat) : Traffic γ κ α :=
  ((Traffic.create h.timeframe h.bound).run (h.events.take n)).1

/-- The callers who end with the event at a place. -/
def endings (n : Nat) : List (Ended γ κ α) :=
  match h.events[n]? with
  | some x => ((h.after n).step x).2
  | none => []

/-- The event at a place is a call in a window. -/
def Calls (n : Nat) (caller : γ) (key : κ) (window : Int) : Prop :=
  ∃ now, h.events[n]? = some (.call caller key now) ∧ window = h.timeframe.window now

/-- The event at a place starts a computation for a key in a window. -/
def Starts (n job : Nat) (key : κ) (window : Int) : Prop :=
  ∃ x, h.events[n]? = some x ∧ (h.after n).Starts x job key window

/-- The event at a place ends a running computation. -/
def Ends (n job : Nat) (o : Outcome α) : Prop :=
  ∃ x, h.events[n]? = some x ∧ (h.after n).Ends x job o

/-- The event at a place drops the entry of a key. -/
def Drops (n : Nat) (key : κ) : Prop :=
  ∃ x, h.events[n]? = some x ∧ x.Drops key

/-! ### States in time -/

variable {h}

theorem after_succ
    {n : Nat} {x : CacheEvent γ κ α} (hx : h.events[n]? = some x) :
  h.after (n + 1) = ((h.after n).step x).1
  := by
  unfold after
  rw [List.take_add_one, Traffic.run_append, hx]
  rfl

theorem after_succ_of_none
    {n : Nat} (hx : h.events[n]? = none) :
  h.after (n + 1) = h.after n
  := by
  unfold after
  rw [List.take_add_one, Traffic.run_append, hx]
  rfl

omit [BEq γ] [BEq κ] in
/-- What holds at the beginning and is kept by every event holds all along. -/
theorem always
    {P : Nat → Prop} (zero : P 0)
    (step : ∀ n x, h.events[n]? = some x → P n → P (n + 1)) {n : Nat}
    (hn : n ≤ h.events.length) :
  P n
  := by
  induction n with
  | zero => apply zero
  | succ n ih =>
    apply step n h.events[n] (List.getElem?_eq_getElem hn)
    apply ih
    omega

/-- What a new cache satisfies and every event keeps, every state satisfies. -/
theorem always_after
    {P : Traffic γ κ α → Prop} (create : P (.create h.timeframe h.bound))
    (step : ∀ t x, P t → P (t.step x).1) (n : Nat) :
  P (h.after n)
  := by
  induction n with
  | zero => apply create
  | succ n ih =>
    cases hx : h.events[n]? with
    | none =>
      rw [after_succ_of_none hx]
      apply ih
    | some x =>
      rw [after_succ hx]
      apply step _ x ih

omit [BEq γ] [BEq κ] in
theorem lt_length
    {n : Nat} {x : CacheEvent γ κ α} (hx : h.events[n]? = some x) :
  n < h.events.length
  := (List.getElem?_eq_some_iff.mp hx).1

@[simp]
theorem timeframe_after
    (n : Nat) :
  (h.after n).cache.timeframe = h.timeframe
  := by
  apply always_after (P := fun t => t.cache.timeframe = h.timeframe)
  · rfl
  · intro t x ht
    rw [(Traffic.settings_step t x).1, ht]

@[simp]
theorem bound_after
    (n : Nat) :
  (h.after n).cache.bound = h.bound
  := by
  apply always_after (P := fun t => t.cache.bound = h.bound)
  · rfl
  · intro t x ht
    rw [(Traffic.settings_step t x).2, ht]

theorem windowAt_after
    (n : Nat) (now : Int) :
  (h.after n).cache.windowAt now = h.timeframe.window now
  := by
  rw [Cache.windowAt, timeframe_after]

theorem started_after_mono
    {m n : Nat} (hmn : m ≤ n) :
  (h.after m).cache.started ≤ (h.after n).cache.started
  := by
  induction hmn with
  | refl => apply Nat.le_refl
  | @step n _ ih =>
    apply Nat.le_trans ih
    cases hx : h.events[n]? with
    | none =>
      apply Nat.le_of_eq
      rw [after_succ_of_none hx]
    | some x =>
      rw [after_succ hx]
      apply Traffic.started_le_step

section Consistent

variable [EquivBEq κ]

theorem consistent_after
    (n : Nat) :
  (h.after n).Consistent
  := by
  apply always_after (P := Traffic.Consistent)
  · apply Traffic.consistent_create
  · intro t x ht
    apply ht.step

end Consistent

/-! ### Starts -/

theorem Starts.calls
    {n job : Nat} {key : κ} {window : Int} (hs : h.Starts n job key window) :
  ∃ caller, h.Calls n caller key window
  := by
  obtain ⟨x, hx, hs⟩ := hs
  cases x with
  | call caller key' now =>
    obtain ⟨rfl, rfl, -⟩ := hs
    use caller, now, hx
    rw [windowAt_after]
  | _ => cases hs

theorem Starts.job_eq
    {n job : Nat} {key : κ} {window : Int} (hs : h.Starts n job key window) :
  job = (h.after n).cache.started + 1
  := by
  obtain ⟨x, -, hs⟩ := hs
  apply hs.job_eq

theorem Starts.started_after
    {n job : Nat} {key : κ} {window : Int} (hs : h.Starts n job key window) :
  (h.after (n + 1)).cache.started = job
  := by
  obtain ⟨x, hx, hs⟩ := hs
  rw [after_succ hx]
  apply hs.started_step

/-- Computations are numbered in the order of their start. -/
theorem Starts.job_lt
    {m n job job' : Nat} {key key' : κ} {window window' : Int}
    (hs : h.Starts m job key window) (hs' : h.Starts n job' key' window') (hmn : m < n) :
  job < job'
  := by
  have hle : (h.after (m + 1)).cache.started ≤ (h.after n).cache.started :=
    started_after_mono hmn
  have := hs.started_after
  have := hs'.job_eq
  omega

/-- A computation starts at one place. -/
theorem Starts.place_eq
    {m n job : Nat} {key key' : κ} {window window' : Int}
    (hs : h.Starts m job key window) (hs' : h.Starts n job key' window') :
  m = n
  := by
  obtain hlt | rfl | hlt := Nat.lt_trichotomy m n
  · exact absurd (hs.job_lt hs' hlt) (Nat.lt_irrefl _)
  · rfl
  · exact absurd (hs'.job_lt hs hlt) (Nat.lt_irrefl _)

/-- Every running computation was started. -/
theorem exists_starts_of_mem_flights
    {n : Nat} (hn : n ≤ h.events.length) :
  ∀ f ∈ (h.after n).flights, ∃ p < n, h.Starts p f.job f.key f.window
  := by
  apply always (P := fun n => ∀ f ∈ (h.after n).flights,
    ∃ p < n, h.Starts p f.job f.key f.window) _ _ hn
  · rintro f ⟨⟩
  · intro n x hx ih f hf
    rw [after_succ hx] at hf
    obtain ⟨hf, -⟩ | hs := Traffic.mem_flights_step.mp hf
    · obtain ⟨p, hp, hs⟩ := ih f hf
      use p, Nat.lt_succ_of_lt hp
    · use n, Nat.lt_succ_self n, x

/-! ### Ends -/

theorem ends_iff
    {n job : Nat} {o : Outcome α} :
  h.Ends n job o
    ↔ h.events[n]? = some (.finish job o) ∧ (h.after n).isRunning job = true
  := by
  constructor
  · rintro ⟨x, hx, hends⟩
    cases x with
    | finish job' o' =>
      obtain ⟨rfl, rfl, hr⟩ := hends
      use hx
    | _ => cases hends
  · rintro ⟨hx, hr⟩
    use .finish job o, hx, rfl, rfl

/-- The numbers of the running computations are among those that were given. -/
theorem job_le_started
    (n : Nat) :
  ∀ f ∈ (h.after n).flights, f.job ≤ (h.after n).cache.started
  := by
  apply always_after (P := fun t => ∀ f ∈ t.flights, f.job ≤ t.cache.started)
  · rintro f ⟨⟩
  · intro t x ht
    apply Traffic.flights_started_step ht

/-- A computation that has ended does not run again. -/
theorem Ends.not_running
    {m n job : Nat} {o : Outcome α} (he : h.Ends m job o) (hmn : m < n) :
  ∀ f ∈ (h.after n).flights, f.job ≠ job
  := by
  -- A number that is taken and does not run is never taken again.
  obtain ⟨x, hx, he⟩ := he
  have hle : job ≤ (h.after m).cache.started := by
    cases x with
    | finish job' o' =>
      obtain ⟨rfl, rfl, hr⟩ := he
      obtain ⟨f, hf, rfl⟩ := Traffic.isRunning_iff.mp hr
      apply job_le_started m f hf
    | _ => cases he
  induction hmn with
  | refl =>
    intro f hf hj
    rw [after_succ hx] at hf
    obtain ⟨-, hne⟩ | hs := Traffic.mem_flights_step.mp hf
    · apply hne o
      rwa [hj]
    · have := hs.job_eq
      omega
  | @step n hmn ih =>
    intro f hf hj
    cases hy : h.events[n]? with
    | none =>
      rw [after_succ_of_none hy] at hf
      apply ih f hf hj
    | some y =>
      rw [after_succ hy] at hf
      obtain ⟨hf, -⟩ | hs := Traffic.mem_flights_step.mp hf
      · apply ih f hf hj
      · have := hs.job_eq
        have := started_after_mono (h := h) (Nat.le_of_succ_le hmn)
        omega

/-- A computation ends at one place. -/
theorem Ends.place_eq
    {m n job : Nat} {o o' : Outcome α} (he : h.Ends m job o) (he' : h.Ends n job o') :
  m = n
  := by
  have hr := (ends_iff.mp he).2
  have hr' := (ends_iff.mp he').2
  obtain ⟨f, hf, hj⟩ := Traffic.isRunning_iff.mp hr
  obtain ⟨f', hf', hj'⟩ := Traffic.isRunning_iff.mp hr'
  obtain hlt | rfl | hlt := Nat.lt_trichotomy m n
  · exact absurd hj' (he.not_running hlt f' hf')
  · rfl
  · exact absurd hj (he'.not_running hlt f hf)

/-- One computation ends at a place. -/
theorem Ends.job_eq
    {n job job' : Nat} {o o' : Outcome α} (he : h.Ends n job o) (he' : h.Ends n job' o') :
  job = job'
  := by
  have hx := (ends_iff.mp he).1.symm.trans (ends_iff.mp he').1
  cases hx
  rfl

/-- A computation ends with one outcome. -/
theorem Ends.outcome_eq
    {m n job : Nat} {o o' : Outcome α} (he : h.Ends m job o) (he' : h.Ends n job o') :
  o = o'
  := by
  obtain rfl := he.place_eq he'
  have hx := (ends_iff.mp he).1
  have hx' := (ends_iff.mp he').1
  simpa using hx.symm.trans hx'

end CacheHistory

end TradeGate
