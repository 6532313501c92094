import TradeGate.Proofs.Cache.History
import Mathlib.Data.List.Basic

/-!
# The end of a computation

When a computation ends, the callers who started or joined it and were not cancelled end
with its outcome, and nobody else does.  `CacheHistory.party` collects these callers from
the events alone; as long as the computation runs, they are the callers who wait for it.
Of the entries only its own can change, and only while that is the entry of its key, apart
from the eviction after a value was stored.
-/

namespace TradeGate

/-- What a waiting caller is told of the result of a computation: the value, or the
cancellation, or a failure with the key and the window of the call and its cause. -/
def Waiter.told {γ κ α : Type} (form : κ → Value) (w : Waiter γ κ) :
    Except Fault α → Except Fault α
  | .ok v => .ok v
  | .error .cancelled => .error .cancelled
  | .error e => .error (.computationFailed (form w.key) (.int w.window) e.said (some e))

/-- A failed result is no value. -/
theorem Outcome.ofResult_ne_value
    {α : Type} {r : Except Fault α} (hr : ∀ v, r ≠ .ok v) :
  ∀ v, Outcome.ofResult r ≠ .value v
  := by
  intro v
  cases r with
  | ok v' => exact absurd rfl (hr v')
  | error e => cases e <;> simp [Outcome.ofResult]

/-- The result that an ended caller gets is what it is told. -/
theorem Ended.result_ofResult
    {γ κ α : Type} (form : κ → Value) (w : Waiter γ κ) {r : Except Fault α}
    (hr : ∀ message, r ≠ .error (.raised "StopIteration" message)) :
  (⟨w.caller, w.key, w.window, .ofResult r⟩ : Ended γ κ α).result form = w.told form r
  := by
  cases r with
  | ok v => rfl
  | error e =>
    cases e with
    | raised label message =>
      have hl : label ≠ "StopIteration" := by
        rintro rfl
        apply hr message rfl
      simp [Outcome.ofResult, Fault.acrossTask, hl, Ended.result, Waiter.told]
    | _ => rfl

/-- The entry of the key of a computation is the one that was made for it. -/
def Flight.IsCurrent {κ α : Type} [BEq κ] (f : Flight κ) (c : Cache κ α) : Prop :=
  ∃ e, c.find? f.key = some e ∧ e.job = f.job

namespace Traffic

variable {γ κ α : Type} [BEq κ] {t : Traffic γ κ α} {f : Flight κ}

/-- An entry of a running computation has its key and no value. -/
theorem Consistent.of_job_eq
    (ht : t.Consistent) (hf : f ∈ t.flights) {e : Entry κ α} (he : e ∈ t.cache.entries)
    (hj : e.job = f.job) :
  e.key = f.key ∧ e.value = none
  := by
  cases hv : e.value with
  | none =>
    obtain rfl := ht.flight_eq hf (ht.inFlight e he hv) hj.symm
    use rfl
  | some v =>
    have hne : e.value ≠ none := by simp [hv]
    exact absurd hj.symm (ht.stored e he hne f hf)

variable [EquivBEq κ]

/-- The entry of a running computation is current as long as it is in the cache. -/
theorem Consistent.isCurrent_iff
    (ht : t.Consistent) (hf : f ∈ t.flights) :
  t.cache.isCurrent f.job = true ↔ f.IsCurrent t.cache
  := by
  rw [Cache.isCurrent_iff]
  constructor
  · rintro ⟨e, he, hj⟩
    use e
    constructor
    · apply ht.cache.find?_eq_some he
      rw [(ht.of_job_eq hf he hj).1]
      apply BEq.rfl
    · apply hj
  · rintro ⟨e, he, hj⟩
    use e, Cache.mem_of_find? he

/-- Without its entry, a failed computation leaves the entries of the other keys. -/
theorem Consistent.entries_dropJob
    (ht : t.Consistent) (hf : f ∈ t.flights) (hcur : f.IsCurrent t.cache) :
  (t.cache.dropJob f.job).entries = t.cache.others f.key
  := by
  obtain ⟨d, hd, hj⟩ := hcur
  apply List.filter_congr
  intro e he
  have hiff : e.job = f.job ↔ e.key == f.key := by
    constructor
    · intro h
      rw [(ht.of_job_eq hf he h).1]
      apply BEq.rfl
    · intro h
      have hfind := ht.cache.find?_eq_some he h
      obtain rfl : e = d := by simpa [hfind] using hd
      apply hj
  by_cases h : e.job = f.job
  · simp [h, hiff.mp h]
  · have hk : ¬ (e.key == f.key) := fun hk => h (hiff.mpr hk)
    simp [h, hk]

/-! ### The entries after the end of a computation -/

/-- The entries with the value of a computation in its entry. -/
theorem Consistent.entries_settle_value
    (ht : t.Consistent) (hf : f ∈ t.flights) (hcur : f.IsCurrent t.cache) (v : α) :
  (t.cache.settle f.job (.value v)).entries
    = Cache.evict t.cache.bound (t.cache.store f.job v).entries
  := by
  simp [Cache.settle, (ht.isCurrent_iff hf).mpr hcur]

/-- A failed or cancelled computation takes away its entry, if that is current, and no
other. -/
theorem Consistent.entries_settle_of_failing
    (ht : t.Consistent) (hf : f ∈ t.flights) {o : Outcome α} (ho : ∀ v, o ≠ .value v)
    (hcur : f.IsCurrent t.cache) :
  (t.cache.settle f.job o).entries = t.cache.others f.key
  := by
  rw [Cache.entries_settle_of_ne_value ho]
  apply ht.entries_dropJob hf hcur

/-- A computation whose entry is not current changes no entry. -/
theorem Consistent.entries_settle_of_not_current
    (ht : t.Consistent) (hf : f ∈ t.flights) (o : Outcome α)
    (hcur : ¬ f.IsCurrent t.cache) :
  (t.cache.settle f.job o).entries = t.cache.entries
  := by
  apply Cache.entries_settle_of_not_current
  rw [← Bool.not_eq_true, ht.isCurrent_iff hf]
  apply hcur

/-! ### Calls for a key without an entry -/

section Calls

variable [BEq γ]

omit [EquivBEq κ] in
/-- A key without an entry gets none before it is called for. -/
theorem find?_run_eq_none
    {key : κ} (hkey : t.cache.find? key = none)
    {later : List (CacheEvent γ κ α)}
    (hlater : ∀ caller key' now, .call caller key' now ∈ later → ¬ (key' == key)) :
  (t.run later).1.cache.find? key = none
  := by
  induction later generalizing t with
  | nil => apply hkey
  | cons x later ih =>
    apply ih
    · apply Cache.find?_eq_none.mpr
      intro e he
      obtain ⟨he, -⟩ | ⟨-, hs⟩ | ⟨d, hd, v, -, rfl⟩ := mem_entries_step he
      · apply Cache.find?_eq_none.mp hkey e he
      · cases x with
        | call caller key' now =>
          obtain ⟨⟨hk, -⟩, -⟩ := starts_call_iff.mp hs
          rw [hk]
          apply hlater caller key' now List.mem_cons_self
        | _ => cases hs
      · apply Cache.find?_eq_none.mp hkey d hd
    · intro caller key' now hmem
      apply hlater caller key' now (List.mem_cons_of_mem x hmem)

omit [BEq γ] in
/-- A call for a key without an entry starts a computation. -/
theorem starts_of_find?_eq_none
    {key key' : κ} (hkey : t.cache.find? key = none) (hk : key' == key)
    (caller : γ) (now : Int) :
  t.Starts (.call caller key' now) (t.cache.started + 1) key' (t.cache.windowAt now)
  := by
  apply starts_call_iff.mpr
  use ⟨rfl, rfl, rfl⟩
  intro e he
  have hek := BEq.trans (Cache.key_of_find? he) hk
  exact absurd hek (Cache.find?_eq_none.mp hkey e (Cache.mem_of_find? he))

end Calls

end Traffic

namespace CacheHistory

variable {γ κ α : Type} [BEq γ] [BEq κ] (h : CacheHistory γ κ α)

/-- The caller at a place, if the call starts or joins a computation. -/
def joiner? (n : Nat) : Option (Waiter γ κ) :=
  match h.events[n]? with
  | some (.call caller key now) =>
    let window := h.timeframe.window now
    match ((h.after n).cache.request key window).1 with
    | .hit _ => none
    | .join job => some ⟨caller, key, window, job⟩
    | .start job => some ⟨caller, key, window, job⟩
  | _ => none

/-- Whether the event at a place cancels a caller. -/
def cancels (n : Nat) (caller : γ) : Bool :=
  match h.events[n]? with
  | some (.cancel caller') => caller == caller'
  | _ => false

/-- The callers at the first `n` places who started or joined a computation and were not
cancelled after their call, in the order of the calls. -/
def party (n job : Nat) : List (Waiter γ κ) :=
  (List.range n).filterMap fun q =>
    (h.joiner? q).filter fun w =>
      w.job == job && (List.range n).all fun r => decide (r ≤ q) || !h.cancels r w.caller

/-- With every event those that it cancels leave the party, and its caller may join. -/
theorem party_succ
    (n job : Nat) :
  h.party (n + 1) job
    = (h.party n job).filter (fun w => !h.cancels n w.caller)
      ++ ((h.joiner? n).filter fun w => w.job == job).toList
  := by
  unfold party
  rw [List.range_succ, List.filterMap_append, List.filter_filterMap]
  congr 1
  · apply List.filterMap_congr
    intro q hq
    have hle : ¬ n ≤ q := Nat.not_le_of_lt (List.mem_range.mp hq)
    rw [Option.filter_filter]
    congr 1
    funext w
    simp [List.all_append, hle, Bool.and_assoc]
  · have hall : ∀ w : Waiter γ κ, ((List.range n ++ [n]).all fun r =>
        decide (r ≤ n) || !h.cancels r w.caller) = true := by
      intro w
      simp only [← List.range_succ, List.all_eq_true, List.mem_range]
      intro r hr
      simp [Nat.le_of_lt_succ hr]
    simp only [List.filterMap_cons, List.filterMap_nil, hall, Bool.and_true]
    cases (h.joiner? n).filter fun w => w.job == job <;> rfl

variable {h}

/-- A call adds its caller to those who wait, if it waits. -/
theorem waiters_call
    {n : Nat} {caller : γ} {key : κ} {now : Int}
    (hx : h.events[n]? = some (.call caller key now)) :
  ((h.after n).call caller key now).1.waiters
    = (h.after n).waiters ++ (h.joiner? n).toList
  := by
  simp only [Traffic.call, joiner?, hx, windowAt_after]
  rcases (h.after n).cache.request key (h.timeframe.window now) with ⟨served, c⟩
  cases served with
  | hit v => simp
  | join job => rfl
  | start job => rfl

/-- The callers who wait for a computation that does not end with an event: those before
whom the event does not cancel, and the caller of the event if it starts or joins the
computation. -/
theorem waiters_after_succ
    {n : Nat} {x : CacheEvent γ κ α} (hx : h.events[n]? = some x) {job : Nat}
    (hends : ∀ o, ¬ h.Ends n job o) :
  (h.after (n + 1)).waiters.filter (fun w => w.job == job)
    = ((h.after n).waiters.filter fun w => w.job == job).filter
        (fun w => !h.cancels n w.caller)
      ++ ((h.joiner? n).filter fun w => w.job == job).toList
  := by
  rw [after_succ hx]
  cases x with
  | call caller key now =>
    have hcancels : ∀ c, h.cancels n c = false := by
      intro c
      simp [cancels, hx]
    rw [Traffic.step, waiters_call hx, List.filter_append]
    simp only [hcancels, Bool.not_false, List.filter_true]
    congr 1
    cases h.joiner? n with
    | none => rfl
    | some w =>
      by_cases hj : w.job = job <;> simp [hj, Option.filter]
  | finish job' o =>
    by_cases hr : (h.after n).isRunning job' = true
    · have hne : job ≠ job' := by
        rintro rfl
        apply hends o
        apply ends_iff.mpr ⟨hx, hr⟩
      have hkeep : ∀ w : Waiter γ κ, (w.job == job && w.job != job') = (w.job == job) := by
        intro w
        by_cases hj : w.job = job
        · simp [hj, hne]
        · simp [hj]
      simp [Traffic.step, Traffic.finish, hr, cancels, joiner?, hx, List.filter_filter, hkeep]
    · simp [Traffic.step, Traffic.finish, hr, cancels, joiner?, hx]
  | cancel caller =>
    simp [Traffic.step, Traffic.cancel, cancels, joiner?, hx, List.filter_filter, Bool.and_comm]
  | clear key => simp [Traffic.step, cancels, joiner?, hx]
  | flush => simp [Traffic.step, cancels, joiner?, hx]

/-- As long as a computation has not ended, the callers who wait for it are those who
started or joined it and were not cancelled. -/
theorem waiters_eq_party
    {n : Nat} (hn : n ≤ h.events.length) {job : Nat} (hends : ∀ m < n, ∀ o, ¬ h.Ends m job o) :
  (h.after n).waiters.filter (fun w => w.job == job) = h.party n job
  := by
  revert hends
  apply always (P := fun n => (∀ m < n, ∀ o, ¬ h.Ends m job o) →
    (h.after n).waiters.filter (fun w => w.job == job) = h.party n job) _ _ hn
  · intro _
    rfl
  · intro n x hx ih hends
    rw [party_succ, ← ih fun m hm => hends m (Nat.lt_succ_of_lt hm)]
    apply waiters_after_succ hx (hends n (Nat.lt_succ_self n))

/-- The callers who wait for a running computation are its party. -/
theorem party_of_mem_flights
    {n : Nat} (hn : n ≤ h.events.length) {f : Flight κ} (hf : f ∈ (h.after n).flights) :
  (h.after n).waiters.filter (fun w => w.job == f.job) = h.party n f.job
  := by
  apply waiters_eq_party hn
  intro m hm o he
  apply he.not_running hm f hf rfl

/-- The end of a running computation ends its party and takes it from the waiting
callers, and the computation from the running ones. -/
theorem finish_of_mem_flights
    {n : Nat} (hn : n ≤ h.events.length) {f : Flight κ} (hf : f ∈ (h.after n).flights)
    (o : Outcome α) :
  ∃ t, (h.after n).step (.finish f.job o)
      = (t, (h.party n f.job).map fun w => ⟨w.caller, w.key, w.window, o⟩)
    ∧ t.cache = (h.after n).cache.settle f.job o
    ∧ t.flights = (h.after n).flights.filter (fun g => g.job != f.job)
    ∧ t.waiters = (h.after n).waiters.filter (fun w => w.job != f.job)
  := by
  have hr : (h.after n).isRunning f.job = true := Traffic.isRunning_iff.mpr ⟨f, hf, rfl⟩
  simp only [Traffic.step, Traffic.finish, hr, if_true, party_of_mem_flights hn hf]
  exact ⟨_, rfl, rfl, rfl, rfl⟩

variable [EquivBEq κ]

/-- The party of a running computation called for its key and window. -/
theorem key_of_mem_party
    {n : Nat} (hn : n ≤ h.events.length) {f : Flight κ} (hf : f ∈ (h.after n).flights) :
  ∀ w ∈ h.party n f.job, f.key == w.key ∧ w.window = f.window
  := by
  intro w hw
  rw [← party_of_mem_flights hn hf] at hw
  obtain ⟨hw, hj⟩ := List.mem_filter.mp hw
  have ht := consistent_after (h := h) n
  obtain ⟨g, hg, hgj, hk, hwin⟩ := ht.waiting w hw
  obtain rfl : g = f := ht.flight_eq hg hf (hgj.trans (by simpa using hj))
  use hk, hwin.symm

variable (h)

/-- When a running computation ends, exactly the callers who started or joined it and were
not cancelled end, all with its outcome: each is told the value, the cancellation, or a
failure with its own key and window and the cause.  All others keep waiting, and all other
computations keep running.

If its entry is no longer the one of its key, no entry changes.  Otherwise a failure or a
cancellation takes away that entry alone, and a success puts the value into it and then
evicts stored values alone, and none within the bound.  After a failure or a cancellation
the next call for the key starts a new computation. -/
theorem end_of_computation
    {n : Nat} (hn : n ≤ h.events.length) {f : Flight κ} (hf : f ∈ (h.after n).flights)
    (form : κ → Value) (r : Except Fault α) :
  ∃ t ended, (h.after n).step (.finish f.job (.ofResult r)) = (t, ended)
    ∧ ended = (h.party n f.job).map (fun w => ⟨w.caller, w.key, w.window, .ofResult r⟩)
    ∧ ((∀ message, r ≠ .error (.raised "StopIteration" message)) →
      ended.map (Ended.result form) = (h.party n f.job).map fun w => w.told form r)
    ∧ (∀ w ∈ h.party n f.job, f.key == w.key ∧ w.window = f.window)
    ∧ t.waiters = (h.after n).waiters.filter (fun w => w.job != f.job)
    ∧ t.flights = (h.after n).flights.filter (fun g => g.job != f.job)
    ∧ (¬ f.IsCurrent (h.after n).cache → t.cache.entries = (h.after n).cache.entries)
    ∧ (f.IsCurrent (h.after n).cache → ∀ v, r = .ok v →
      t.cache.entries.Sublist ((h.after n).cache.store f.job v).entries
        ∧ (∀ e ∈ ((h.after n).cache.store f.job v).entries, e.value = none →
          e ∈ t.cache.entries)
        ∧ (h.bound ≤ 0 ∨ (h.after n).cache.size ≤ h.bound →
          t.cache.entries = ((h.after n).cache.store f.job v).entries))
    ∧ (f.IsCurrent (h.after n).cache → (∀ v, r ≠ .ok v) →
      t.cache.entries = (h.after n).cache.others f.key
        ∧ ∀ later : List (CacheEvent γ κ α),
          (∀ caller key now, .call caller key now ∈ later → ¬ (key == f.key)) →
          ∀ caller key now, key == f.key →
            (t.run later).1.Starts (.call caller key now)
              ((t.run later).1.cache.started + 1) key (h.timeframe.window now))
  := by
  have ht := consistent_after (h := h) n
  obtain ⟨t, hfinish, hcache, hflights, hwaiters⟩ := finish_of_mem_flights hn hf (.ofResult r)
  refine ⟨t, _, hfinish, rfl, ?_⟩
  rw [hcache]
  constructor
  · intro hr
    rw [List.map_map]
    apply List.map_congr_left
    intro w _
    apply Ended.result_ofResult form w hr
  use key_of_mem_party hn hf, hwaiters, hflights
  constructor
  · apply ht.entries_settle_of_not_current hf
  constructor
  · rintro hcur v rfl
    simp only [Outcome.ofResult, ht.entries_settle_value hf hcur v, bound_after]
    constructor
    · apply Cache.evict_sublist
    constructor
    · intro e he hv
      apply Cache.mem_evict_of_inFlight he hv
    · rintro (hbound | hbound)
      · apply Cache.evict_of_nonpos hbound
      · apply Cache.evict_of_length_le
        simpa [Cache.store, Cache.size] using hbound
  · intro hcur hr
    have hentries := ht.entries_settle_of_failing hf (Outcome.ofResult_ne_value hr) hcur
    use hentries
    intro later hlater caller key now hk
    have hnone : t.cache.find? f.key = none := by
      apply Cache.find?_eq_none.mpr
      rw [hcache, hentries]
      intro e he
      apply (Cache.mem_others.mp he).2
    have hstarts := Traffic.starts_of_find?_eq_none
      (Traffic.find?_run_eq_none hnone hlater) hk caller now
    rwa [Cache.windowAt, Traffic.timeframe_run, hcache, Cache.timeframe_settle,
      timeframe_after] at hstarts

/-- Three callers for one key and one for another, the second of whom is cancelled. -/
def cancelledCaller : CacheHistory Nat Nat Nat where
  timeframe := .m1
  bound := 0
  events := [.call 1 7 0, .call 2 7 5, .call 3 7 10, .call 4 8 15, .cancel 2]

/-- When the computation fails, the two others who called for its key are told so, and the
entry of the other key stays. -/
theorem end_of_computation_cancelledCaller :
  (⟨1, 7, 0⟩ : Flight Nat) ∈ (cancelledCaller.after 5).flights
    ∧ ∃ t ended, (cancelledCaller.after 5).step (.finish 1 (.ofResult (.error .exhausted)))
        = (t, ended)
      ∧ ended = [⟨1, 7, 0, .failure .exhausted⟩, ⟨3, 7, 0, .failure .exhausted⟩]
      ∧ t.waiters = [⟨4, 8, 0, 2⟩]
      ∧ t.cache.entries = [⟨8, 0, 2, none⟩]
  := by
  have hf : (⟨1, 7, 0⟩ : Flight Nat) ∈ (cancelledCaller.after 5).flights := List.mem_cons_self
  have hcur : Flight.IsCurrent ⟨1, 7, 0⟩ (cancelledCaller.after 5).cache :=
    ⟨⟨7, 0, 1, none⟩, rfl, rfl⟩
  obtain ⟨t, ended, hstep, hended, -, -, hwaiters, -, -, -, hfailing⟩ :=
    end_of_computation cancelledCaller (n := 5) (Nat.le_refl 5) hf
      (fun key => .int key) (.error .exhausted)
  obtain ⟨hentries, -⟩ := hfailing hcur (by simp)
  use hf, t, ended, hstep, hended, hwaiters, hentries

end CacheHistory

end TradeGate
